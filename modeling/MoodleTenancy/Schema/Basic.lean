import MoodleTenancy.Json.Basic
import MoodleTenancy.Text.Words

/-!
# Shapes of cluster objects

What an API server stores has a declared shape: models, which name their members, and lists, maps
and single values inside them.

* `Shape`, `Member`: shapes, and the members of models.
* `Shape.needed`, `Shape.given`: a member that has to be there, and one that need not.
* `attributeOf`, `formerName`: the names by which programs call a member.
* `Shape.member?`: the member of a model by such a name.
* `Shape.givenMember?`: the value of a member in an object.
-/

namespace MoodleTenancy
set_option autoImplicit false

inductive Shape where
  | text
  | integer
  /-- A number or a name, as of a port; or an amount that is counted or a percentage. -/
  | integerOrText
  | flag
  /-- Bytes written as text. -/
  | bytes
  /-- A moment in time. -/
  | moment
  /-- An object with any contents. -/
  | record
  | list (item : Shape)
  | map (value : Shape)
  /-- An object with members: each has a wire name, may be needed, and has a shape. -/
  | model (name : String) (members : List (String × Bool × Shape))

/-- A wire name, whether the member is needed, and its shape. -/
abbrev Member := String × Bool × Shape

namespace Shape

/-- A member that has to be there. -/
def needed (wire : String) (s : Shape) : Member := (wire, true, s)

/-- A member that need not be there. -/
def given (wire : String) (s : Shape) : Member := (wire, false, s)

/-- Members of one shape that need not be there. -/
def givens (s : Shape) (wires : List String) : List Member := wires.map fun w => given w s

/-- The name of a model; of other shapes there is none. -/
def name? : Shape → Option String
  | model name _ => some name
  | _ => none

/-- Whether values are lists of models. -/
def listsModels : Shape → Bool
  | list s => s.name?.isSome
  | _ => false

/-- Whether values are models or lists of them. -/
def holdsModels (s : Shape) : Bool := s.name?.isSome || s.listsModels

end Shape

/-! ## Names of members in programs -/

/-- Wire names that are words of a program's own language. -/
def reservedWords : List String := ["except", "exec", "from"]

def isReserved (wire : String) : Bool := reservedWords.contains wire

/-- The name by which programs call a member. -/
def attributeOf (wire : String) : String :=
  (if isReserved wire then "var_" else "") ++ String.ofList (Text.parted wire.toList)

/-- The name by which programs used to call a member, which still does. For a member whose wire name
is not reserved the two are one. -/
def formerName (wire : String) : String :=
  (if isReserved wire then "_" else "") ++ String.ofList (Text.parted wire.toList)

/-- The member that programs call by a name. -/
def Shape.member? (called : String) (members : List Member) : Option Member :=
  members.find? fun m => attributeOf m.1 = called || formerName m.1 = called

/-! ## Members in objects -/

namespace Shape

/-- The value that an object has for a member: under its wire name or, failing that, under its
former name. -/
def givenMember? (wire : String) (fields : Fields) : Option Json :=
  (Fields.get? wire fields).or (Fields.get? (formerName wire) fields)

/-- A member whose wire name is reserved, and that an object has under both of its names. -/
def givenTwice? (members : List Member) (fields : Fields) : Option String :=
  (members.map (·.1)).find? fun wire => isReserved wire && (Fields.get? wire fields).isSome &&
    (Fields.get? (formerName wire) fields).isSome

/-- The text of a member that an object has under both of its names. -/
def givenTwiceText (model wire : String) : String :=
  model ++ " received both '" ++ wire ++ "' and '" ++ formerName wire ++ "'"

end Shape
end MoodleTenancy
