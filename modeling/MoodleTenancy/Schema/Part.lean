import MoodleTenancy.Json.Change
import MoodleTenancy.Schema.Basic
import MoodleTenancy.Time.Moment

/-!
# Parts of cluster objects

An object in a program is made of parts: models, which know their members, beside lists and maps,
whose contents nobody has to vouch for.

* `Part`: the parts, down to single values.
* `Part.ofJson`: JSON as a part without models. `Part.toJson`: what a part says.
* `Part.toJson_ofJson`: nothing is lost that way.
* `Part.under`: the part under a key.
-/

namespace MoodleTenancy
set_option autoImplicit false

inductive Part where
  /-- A single value. -/
  | value (j : Json)
  | moment (m : Time.Moment)
  | list (items : List Part)
  | map (fields : List (Key × Part))
  /-- A model with the members that it declares; with those that it holds, by their wire names, null
  where nothing was given; and with notes: what a program has put down under names of its own. -/
  | model (name : String) (members : List Member) (held notes : List (Key × Part))
  /-- An object of no model, which has any attributes. -/
  | bare (attributes : List (Key × Part))

namespace Part

/-! ## JSON -/

mutual

/-- JSON as a part: lists and maps of single values. -/
def ofJson : Json → Part
  | .arr items => list (ofItems items)
  | .obj fields => map (ofFields fields)
  | j => value j
termination_by structural j => j

def ofItems : List Json → List Part
  | [] => []
  | j :: js => ofJson j :: ofItems js
termination_by structural js => js

def ofFields : List (Key × Json) → List (Key × Part)
  | [] => []
  | (k, j) :: fs => (k, ofJson j) :: ofFields fs
termination_by structural fs => fs

end

mutual

/-- What a part says. A model leaves out the members that are null, and its notes. -/
def toJson : Part → Json
  | value j => j
  | moment m => .str m.text
  | list items => .arr (toItems items)
  | map fields => .obj (toFields fields)
  | model _ _ held _ => .obj ((toFields held).filter fun f => !f.2.isNull)
  | bare attributes => .obj (toFields attributes)
termination_by structural p => p

def toItems : List Part → List Json
  | [] => []
  | p :: ps => toJson p :: toItems ps
termination_by structural ps => ps

def toFields : List (Key × Part) → List (Key × Json)
  | [] => []
  | (k, p) :: fs => (k, toJson p) :: toFields fs
termination_by structural fs => fs

end

mutual

/-- JSON comes back as it was. -/
theorem toJson_ofJson : ∀ j : Json, (ofJson j).toJson = j
  | .arr items => by rw [ofJson, toJson, toItems_ofItems items]
  | .obj fields => by rw [ofJson, toJson, toFields_ofFields fields]
  | .null => rfl
  | .bool _ => rfl
  | .int _ => rfl
  | .float _ => rfl
  | .str _ => rfl

theorem toItems_ofItems : ∀ js : List Json, toItems (ofItems js) = js
  | [] => rfl
  | j :: js => by rw [ofItems, toItems, toJson_ofJson j, toItems_ofItems js]

theorem toFields_ofFields : ∀ fs : List (Key × Json), toFields (ofFields fs) = fs
  | [] => rfl
  | (k, j) :: fs => by rw [ofFields, toFields, toJson_ofJson j, toFields_ofFields fs]

end

/-- The part that stands for nothing. -/
def nothing : Part := value .null

/-! ## Parts by key -/

def kindName : Part → String
  | value j => j.kindName
  | moment _ => "datetime.datetime"
  | list _ => (Json.arr []).kindName
  | map _ => (Json.obj []).kindName
  | model name _ _ _ => name
  | bare _ => "types.SimpleNamespace"

/-- What a part is. A clock that is not known has no offset from another. -/
def nature : Part → Nature
  | moment m => if m.offset.isNone then .naive else .of "datetime.datetime"
  | bare attributes => .whole (bare attributes).kindName
  | p => .of p.kindName

def model? : Part → Option String
  | model name _ _ _ => some name
  | _ => none

/-- Under this name an object has all that it holds, as a map. -/
@[match_pattern] def allAttributes : String := "__dict__"

/-- All that an object of a model holds, under the names by which programs call it. -/
def attributesOf (members : List Member) (held notes : List (Key × Part)) : List (Key × Part) :=
  (members.filterMap fun m => (Fields.get? m.1 held).map fun v => (Key.text (attributeOf m.1), v))
    ++ notes

/-- The part that an object of a model has under a name. -/
def memberUnder? (called : String) (members : List Member) (held notes : List (Key × Part)) :
    Option Part :=
  if called = allAttributes then some (map (attributesOf members held notes))
  else
    match Shape.member? called members with
    | some m => Fields.get? m.1 held
    | none => Fields.get? called notes

/-- The name under which an object of a model misses something. -/
def missedName (called : String) (members : List Member) : String :=
  ((Shape.member? called members).map fun m => attributeOf m.1).getD called

/-- The part that an object of no model has under a name. -/
def attributeUnder? (called : String) (attributes : List (Key × Part)) : Option Part :=
  if called = allAttributes then some (map attributes) else Fields.get? called attributes

def under (p : Part) (key : Json) : Except Fault Part :=
  match p, key with
  | list items, key => Json.itemUnder key items
  | map fields, key => Json.fieldUnder key fields
  | model name members held notes, .str called =>
    match memberUnder? called members held notes with
    | some v => .ok v
    | none => .error (.lacksMember name (missedName called members))
  | bare attributes, .str called =>
    match attributeUnder? called attributes with
    | some v => .ok v
    | none => .error (.lacks p.kindName called)
  | p, key => .error (Json.noPart p.kindName key)

end Part
end MoodleTenancy
