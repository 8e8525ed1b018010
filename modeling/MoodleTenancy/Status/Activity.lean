import MoodleTenancy.Fault

/-!
# The activity log

A status keeps the last 15 things that happened to its tenant, the latest at the end.

* `Activity`: something that happened.
* `Activity.append`: puts it at the end of a stored log.
* `lastOf`: the last items of a list.
* `lastOf_append`: what a longer log would have dropped is dropped either way.
-/

namespace MoodleTenancy
set_option autoImplicit false

/-- The last `n` items, or all if there are fewer. -/
def lastOf {α : Type} (n : Nat) (l : List α) : List α := l.drop (l.length - n)

section Lemmas

variable {α : Type}

@[simp] theorem length_lastOf (n : Nat) (l : List α) : (lastOf n l).length = min n l.length := by
  simp only [lastOf, List.length_drop]
  omega

theorem lastOf_of_length_le {n : Nat} {l : List α} (h : l.length ≤ n) : lastOf n l = l := by
  simp [lastOf, Nat.sub_eq_zero_of_le h]

theorem lastOf_append (n : Nat) (l m : List α) :
    lastOf n (lastOf n l ++ m) = lastOf n (l ++ m) := by
  by_cases h : l.length ≤ n
  · rw [lastOf_of_length_le h]
  · have hk : l.length - n ≤ l.length := Nat.sub_le _ _
    have e : (l ++ m).length - n = (l.length - n) + m.length := by
      simp only [List.length_append]
      omega
    have e' : (lastOf n l ++ m).length - n = m.length := by
      simp only [List.length_append, length_lastOf]
      omega
    calc lastOf n (lastOf n l ++ m)
        = (lastOf n l ++ m).drop m.length := by rw [← e', lastOf]
      _ = ((l ++ m).drop (l.length - n)).drop m.length := by
        rw [List.drop_append_of_le_length hk, lastOf]
      _ = lastOf n (l ++ m) := by rw [List.drop_drop, ← e, lastOf]

end Lemmas

structure Activity where
  event : String
  message : String
deriving DecidableEq

namespace Activity

def entry (now : Time.Instant) (a : Activity) : Except Fault Json := do
  return .obj [("timestamp", .str (← stamp now)), ("event", .str a.event),
    ("message", .str a.message)]

/-- How many entries a log keeps. -/
def limit : Nat := 15

def append (now : Time.Instant) (a : Activity) : Json → Except Fault Json
  | .arr entries => (a.entry now).map fun e => .arr (lastOf limit (entries ++ [e]))
  | j => .error (.lacks j.kindName "append")

@[simp] theorem append_arr (now : Time.Instant) (a : Activity) (entries : List Json) :
    a.append now (.arr entries) =
      (a.entry now).map fun e => .arr (lastOf limit (entries ++ [e])) := rfl

end Activity
end MoodleTenancy
