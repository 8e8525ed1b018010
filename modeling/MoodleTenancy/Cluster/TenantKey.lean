import MoodleTenancy.Fault
import MoodleTenancy.Json.Same

/-!
# Names of tenants as keys

A tenant is found by its name, which bodies may give as any single JSON value. Numbers are one name
if they are equal, whatever their form.

* `TenantKey`: what tells names apart. `TenantKey.of`: the key of a name.
* `sorted`: names in ascending order, if they have one.
-/

namespace MoodleTenancy
set_option autoImplicit false

/-- What tells the names of tenants apart. -/
abbrev TenantKey := Key.Identity

namespace TenantKey

/-- The key of a name. Lists and objects are no names. -/
def of (name : Json) : Except Fault TenantKey := name.asKey.map Key.identity

@[simp] theorem of_str (s : String) : of (.str s) = .ok (.text s) := rfl

/-! ## Order -/

/-- Whether one name is less than another; none if they have no order. -/
def less? (a b : Json) : Option Bool :=
  match a, b with
  | .str s, .str t => some (decide (s < t))
  | a, b =>
    match a.number?, b.number? with
    | some n, some m => some (n.lt m)
    | _, _ => none

def less (a b : Json) : Except Fault Bool :=
  match less? a b with
  | some answer => .ok answer
  | none => .error (.unordered a.kindName b.kindName)

/-- The names that go on from one in the same direction, and those behind them. -/
def run (descends : Bool) (last : Json) : List Json → Except Fault (List Json × List Json)
  | [] => .ok ([], [])
  | name :: rest => do
    if (← less name last) = descends then
      let (onward, behind) ← run descends name rest
      return (name :: onward, behind)
    else return ([], name :: rest)

/-- Ascending names with one more among them, behind its equals. Its place is found by halves; the
names are no more than `bound`. -/
def place (name : Json) : (bound : Nat) → List Json → Except Fault (List Json)
  | 0, names => .ok (name :: names)
  | bound + 1, names => do
    let half := names.length / 2
    match names.drop half with
    | [] => return [name]
    | middle :: above =>
      if ← less name middle then return (← place name bound (names.take half)) ++ middle :: above
      else return names.take half ++ middle :: (← place name bound above)

/-- Names in ascending order, if they have one: the run at the start is kept, turned round if it
descends, and the others are placed one by one. Of names without an order, the first two that meet
are to blame. -/
def sorted : (names : List Json) → Except Fault (List Json)
  | first :: second :: rest => do
    let descends ← less second first
    let (onward, behind) ← run descends second rest
    let start := first :: second :: onward
    behind.foldlM (fun names name => place name names.length names)
      (if descends then start.reverse else start)
  | names => .ok names

end TenantKey
end MoodleTenancy
