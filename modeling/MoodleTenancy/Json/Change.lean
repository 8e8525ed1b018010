import MoodleTenancy.Json.Facet

/-!
# Changing parts of JSON values

A path leads from a value to a part of it, entry by entry. What it may lead to behind a value that
has no entries is no part of that.

* `Json.part`, `Json.changed`: the part under a key, and the value after a change of it.
* `Json.edited`: the value after a change at the end of a path.
* `Fields.absorb`: lays fields over others, given as an object or as a list of pairs.
-/

namespace MoodleTenancy
set_option autoImplicit false

namespace Json

/-! ## Parts -/

/-- Whether a value is made of others. -/
def hasEntries : Json → Bool
  | arr _ => true
  | obj _ => true
  | _ => false

/-- What a value without entries is. -/
def nature (j : Json) : Nature := .of j.kindName

/-- Why a value of a kind without entries has no part under a key. -/
def noPart (kind : String) (key : Json) : Fault :=
  match key with
  | .str name => .lacks kind name
  | _ => .namelessPart key.kindName

def part (j key : Json) : Except Fault Json :=
  match j with
  | obj fields => fieldUnder key fields
  | arr items => itemUnder key items
  | j => .error (noPart j.kindName key)

def changed (j key : Json) (change : Change) : Except Fault Json :=
  match j with
  | obj fields => (fieldsChanged key change.value? fields).map obj
  | arr items => (itemsChanged key change.value? items).map arr
  | j => (j.nature.changed key change).map fun _ => j

/-- The value after a change at the end of a path, which has at least one step. What happens behind
a value without entries leaves it as it is. -/
def edited : (path : List Json) → Change → Json → Except Fault Json
  | [], _, _ => .error (.noItem false)
  | [key], change, j => j.changed key change
  | key :: path, change, j =>
    if j.hasEntries then do
      let after ← edited path change (← j.part key)
      j.changed key (.put after)
    else (j.nature.outcome (key :: path) change).map fun _ => j

end Json

namespace Fields

/-- The pair that an item of a list of pairs is; `i` is the position of the item. -/
def pair (i : Nat) (item : Json) : Except Fault (Key × Json) :=
  match item.itemsOf with
  | .error _ => .error (.noPair i)
  | .ok [k, v] => k.asKey.map fun k => (k, v)
  | .ok parts => .error (.unevenPair i parts.length)

/-- Sets fields pair by pair, as far as that goes; `i` is the position of the first pair. -/
def absorbPairs : (i : Nat) → List Json → Fields → Fields × Except Fault Unit
  | _, [], fields => (fields, .ok ())
  | i, item :: items, fields =>
    match pair i item with
    | .ok (k, v) => absorbPairs (i + 1) items (set k v fields)
    | .error fault => (fields, .error fault)

/-- The fields with those of `patch` laid over them, as far as that goes. -/
def absorb (patch : Json) (fields : Fields) : Fields × Except Fault Unit :=
  match patch with
  | .obj changes => (overlay fields changes, .ok ())
  | patch =>
    match patch.itemsOf with
    | .ok items => absorbPairs 0 items fields
    | .error fault => (fields, .error fault)

@[simp] theorem absorb_obj (changes fields : Fields) :
    absorb (.obj changes) fields = (overlay fields changes, .ok ()) := rfl

end Fields
end MoodleTenancy
