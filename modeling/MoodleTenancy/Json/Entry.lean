import MoodleTenancy.Fault

/-!
# Entries of lists and objects

A part of a value is reached by a key: a field of an object under the key itself, an item of a list
by its position, which counts from the end if it is negative.

* `Change`: what happens to a part.
* `Json.fieldUnder`, `Json.itemUnder`: the entry of an object or a list of any values.
* `Json.fieldsChanged`, `Json.itemsChanged`: the entries after a change of one.
-/

namespace MoodleTenancy
set_option autoImplicit false

/-- What happens to a part of a value. -/
inductive Change where
  | put (value : Json)
  | erase

def Change.value? : Change → Option Json
  | put v => some v
  | erase => none

namespace Json

variable {α : Type}

/-- The index of the item at a position of a list of some length. -/
def itemIndex (forChange : Bool) (key : Json) (length : Nat) : Except Fault Nat :=
  match key.position? with
  | none => .error (.keyedEntry (arr []).kindName key.kindName)
  | some n =>
    let i := if n < 0 then n + length else n
    if !Numeric.isWord n then .error .oversizedPosition
    else if 0 ≤ i ∧ i < length then .ok i.toNat
    else .error (.noItem forChange)

def fieldUnder (key : Json) (fields : List (Key × α)) : Except Fault α := do
  match Fields.get? (← key.asKey) fields with
  | some v => return v
  | none => .error (.missingKey key)

/-- The fields after the one under a key is set, or taken out if there is no value for it. -/
def fieldsChanged (key : Json) (value : Option α) (fields : List (Key × α)) :
    Except Fault (List (Key × α)) := do
  let k ← key.asKey
  match value, Fields.get? k fields with
  | some v, _ => return Fields.set k v fields
  | none, some _ => return Fields.erase k fields
  | none, none => .error (.missingKey key)

def itemUnder (key : Json) (items : List α) : Except Fault α := do
  match items[← itemIndex false key items.length]? with
  | some v => return v
  | none => .error (.noItem false)

/-- The items after the one under a key is set, or taken out if there is no value for it. -/
def itemsChanged (key : Json) (value : Option α) (items : List α) : Except Fault (List α) := do
  let i ← itemIndex true key items.length
  match value with
  | some v => return items.set i v
  | none => return items.eraseIdx i

end Json
end MoodleTenancy
