import MoodleTenancy.Numeric.Reading
import MoodleTenancy.Validation.Checked

/-!
# Readers of values

Readers are lenient where no meaning is lost: a whole number may come as text or in floating point,
and a flag as a word.

* `text`, `nonEmptyText`, `integer`, `flag`: single values.
* `atLeast`, `atMost`: bounds on an integer.
* `listOf`, `mapOf`, `nullable`: values made of others.
* `Field.required`, `Field.optional`: a field of an object, under its wire name or, failing that,
  under its alternative one.
* `model`: an object with its fields.
-/

namespace MoodleTenancy.Validation
set_option autoImplicit false

open Numeric

/-! ## Text -/

def text : Reader String
  | .str s => .accepted s
  | j => refuse .notText j

def nonEmptyText : Reader String
  | .str s => if s = "" then refuse .emptyText (.str s) else .accepted s
  | j => refuse .notText j

/-! ## Integers -/

/-- The integer that a floating-point number stands for: one strictly within the bounds of 64 bits,
since the bounds themselves are where such numbers stop telling neighbours apart. -/
def wordOf? (x : Binary64) : Option Int :=
  x.toInt?.filter fun n => -wordLimit < n && n < wordLimit

/-- An integer: as such, as a truth value, as a floating-point number without a fraction, or as
text. -/
def integer : Reader Int
  | .int n => .accepted n
  | .bool b => .accepted (if b then 1 else 0)
  | .float x =>
    if !x.isFinite then refuse .notFinite (.float x)
    else
      match x.toInt?, wordOf? x with
      | none, _ => refuse .fractional (.float x)
      | _, some n => .accepted n
      | _, none => refuse .oversizedInteger (.float x)
  | .str s =>
    match laxInteger s with
    | .integer n => .accepted n
    | .oversized _ => refuse .oversizedInteger (.str s)
    | .unreadable => refuse .unreadableInteger (.str s)
  | j => refuse .notInteger j

def atLeast (least : Int) : Reader Int := fun j =>
  (integer j).andThen fun n => if least ≤ n then .accepted n else refuse (.tooSmall least) j

def between (least greatest : Int) : Reader Int := fun j =>
  (atLeast least j).andThen fun n =>
    if n ≤ greatest then .accepted n else refuse (.tooGreat greatest) j

/-! ## Flags -/

/-- The words for false and true, in lower case. -/
def falseWords : List String := ["0", "off", "f", "false", "n", "no"]

def trueWords : List String := ["1", "on", "t", "true", "y", "yes"]

/-- The flag that an integer stands for. -/
def flagOfInt? : Int → Option Bool
  | 0 => some false
  | 1 => some true
  | _ => none

/-- A flag: a truth value, the numbers zero and one, or a word in any case. -/
def flag : Reader Bool
  | .bool b => .accepted b
  | .int n =>
    if isWord n then
      match flagOfInt? n with
      | some b => .accepted b
      | none => refuse .unreadableFlag (.int n)
    else refuse .notFlag (.int n)
  | .float x =>
    match wordOf? x with
    | none => refuse .notFlag (.float x)
    | some n =>
      match flagOfInt? n with
      | some b => .accepted b
      | none => refuse .unreadableFlag (.float x)
  | .str s =>
    let word := String.ofList (s.toList.map Char.toLower)
    if falseWords.contains word then .accepted false
    else if trueWords.contains word then .accepted true
    else refuse .unreadableFlag (.str s)
  | j => refuse .notFlag j

/-! ## Lists and maps -/

def itemsFrom {α : Type} (r : Reader α) : (i : Nat) → List Json → Checked (List α)
  | _, [] => .accepted []
  | i, j :: js => (((r j).within (.index i)).map List.cons).and (itemsFrom r (i + 1) js)

def listOf {α : Type} (r : Reader α) : Reader (List α)
  | .arr items => itemsFrom r 0 items
  | j => refuse .notList j

/-- The text that the key of an entry is. -/
def keyText : Key → Checked String
  | .text s => .accepted s
  | k => (refuse .notText (.ofKey k)).within (.key "[key]")

/-- The entries of a map, in their order. -/
def entries {α : Type} (r : Reader α) : Fields → Checked (List (String × α))
  | [] => .accepted []
  | (k, v) :: rest =>
    (((((keyText k).map Prod.mk).and (r v)).within (.ofKey k)).map List.cons).and
      (entries r rest)

def mapOf {α : Type} (r : Reader α) : Reader (List (String × α))
  | .obj fields => entries r fields
  | j => refuse .notMap j

def nullable {α : Type} (r : Reader α) : Reader (Option α)
  | .null => .accepted none
  | j => (r j).map some

/-! ## Fields and models -/

/-- A field of a model: its name on the wire, and the name accepted in place of that. -/
structure Field where
  wire : String
  alternative : String := wire

namespace Field

/-- The name under which an object has the field, and its value; the wire name goes first. -/
def find? (f : Field) (fields : Fields) : Option (String × Json) :=
  match Fields.get? f.wire fields with
  | some v => some (f.wire, v)
  | none => (Fields.get? f.alternative fields).map fun v => (f.alternative, v)

def required {α : Type} (f : Field) (r : Reader α) : FieldReader α := fun fields =>
  match f.find? fields with
  | some (name, v) => (r v).within (.key name)
  | none => (refuse .missing (.obj fields)).within (.key f.wire)

def optional {α : Type} (f : Field) (default : α) (r : Reader α) : FieldReader α := fun fields =>
  match f.find? fields with
  | some (name, v) => (r v).within (.key name)
  | none => .accepted default

end Field

/-- An object whose fields make up the named model. -/
def model {α : Type} (name : String) (r : FieldReader α) : Reader α
  | .obj fields => r fields
  | j => refuse (.notModel name) j

end MoodleTenancy.Validation
