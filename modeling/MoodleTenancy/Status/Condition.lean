import MoodleTenancy.Fault

/-!
# Conditions

A condition says whether one aspect of a tenant is as it should be. A status keeps a list of them,
in the order of their first mention.

* `Condition`: what is to be said about an aspect.
* `Condition.upsert`: says it in a list of stored conditions.
-/

namespace MoodleTenancy
set_option autoImplicit false

structure Condition where
  type : String
  status : String
  reason : String
  message : String
deriving DecidableEq

namespace Condition

/-- The condition stored at its first mention. -/
def fresh (now : Time.Instant) (c : Condition) : Except Fault Json := do
  return .obj [("type", .str c.type), ("status", .str c.status), ("reason", .str c.reason),
    ("message", .str c.message), ("lastTransitionTime", .str (← stamp now))]

def turns (c : Condition) (stored : Json) : Bool :=
  !(Json.ofOption (stored.get? "status")).isText c.status

/-- A stored condition with all of `c` but the time. -/
def restated (c : Condition) (stored : Json) : Json :=
  ((stored.set "status" (.str c.status)).set "reason" (.str c.reason)).set "message"
    (.str c.message)

/-- A stored condition brought up to date; its time moves only if its status turns. -/
def onto (now : Time.Instant) (c : Condition) (stored : Json) : Except Fault Json :=
  if c.turns stored then do
    return c.restated (stored.set "lastTransitionTime" (.str (← stamp now)))
  else .ok (c.restated stored)

/-- Brings the first stored condition of the type up to date, or adds one at the end. -/
def upsert (now : Time.Instant) (c : Condition) : List Json → Except Fault (List Json)
  | [] => (c.fresh now).map ([·])
  | stored :: rest => do
    if (← stored.field "type").isText c.type then return (← c.onto now stored) :: rest
    else return stored :: (← c.upsert now rest)

@[simp] theorem upsert_nil (now : Time.Instant) (c : Condition) :
    c.upsert now [] = (c.fresh now).map ([·]) := rfl

theorem onto_of_not_turns {c : Condition} {stored : Json} (h : c.turns stored = false)
    (now : Time.Instant) : c.onto now stored = .ok (c.restated stored) := by
  simp [onto, h]

theorem upsert_cons_obj (now : Time.Instant) (c : Condition) (fields : Fields)
    (rest : List Json) :
    c.upsert now (.obj fields :: rest) =
      if (Json.ofOption (Fields.get? "type" fields)).isText c.type then
        (c.onto now (.obj fields)).map (· :: rest)
      else (c.upsert now rest).map (.obj fields :: ·) := by
  rw [upsert]
  cases c.upsert now rest <;> cases c.onto now (.obj fields) <;>
    simp [bind, Except.bind, pure, Except.pure, Except.map]

end Condition
end MoodleTenancy
