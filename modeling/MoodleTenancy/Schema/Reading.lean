import MoodleTenancy.Schema.Part
import MoodleTenancy.Validation.Readers

/-!
# Reading parts of cluster objects

Unlike declarations, objects that a cluster holds are not read leniently: a value has to be of its
shape as it is, and a model takes no members but its own. A member that is absent is null.

* `Shape.read`: reads a value with all that is in it, and gathers the issues.
* `Shape.typed`: a value as a part, with models where its shape has them.
-/

namespace MoodleTenancy
set_option autoImplicit false

namespace Shape

open Validation

/-! ## Single values -/

def readInteger : Reader Part
  | .int n => .accepted (.value (.int n))
  | j => refuse .notInteger j

def readText : Reader Part := fun j => (Validation.text j).map fun s => .value (.str s)

/-- Either of two, in this order; both complaints are kept. -/
def readEither (first : String × Reader Part) (second : String × Reader Part) : Reader Part :=
  fun j =>
    match (first.2 j).within (.key first.1), (second.2 j).within (.key second.1) with
    | .accepted p, _ => .accepted p
    | _, .accepted p => .accepted p
    | .refused is, .refused js => .refused (is ++ js)

def readFlag : Reader Part
  | .bool b => .accepted (.value (.bool b))
  | j => refuse .notFlag j

/-- Text is the one form of bytes in JSON. -/
def readBytes : Reader Part :=
  readEither ("bytes", refuse .notBytes) ("str", readText)

/-- The complaint about a value that is no moment. -/
def timeComplaint : Time.TimeFault → Complaint
  | .noDate why => .unreadableTime why
  | .noMoment why => .impossibleTime why

/-- A moment, if the value has one. -/
def moment? (j : Json) (m : Except Time.TimeFault Time.Moment) : Checked Part :=
  match m with
  | .ok m => .accepted (.moment m)
  | .error why => refuse (timeComplaint why) j

/-- A moment is text, or a number of seconds within the range of binary numbers. -/
def readMoment : Reader Part
  | .str s => moment? (.str s) (Time.Moment.ofText s)
  | .int n =>
    if (Numeric.Binary64.ofInt? n).isNone then refuse .notTime (.int n)
    else moment? (.int n) ((Time.Moment.ofInteger n).mapError .noMoment)
  | .float x => moment? (.float x) ((Time.Moment.ofNumber x).mapError .noMoment)
  | j => refuse .notTime j

def readRecord : Reader Part
  | .obj fields => .accepted (.ofJson (.obj fields))
  | j => refuse .notMap j

/-! ## Names of members -/

/-- The fields of an object for a model, under wire names if one of those is reserved. A member that
comes under both of its names keeps the value of the wire name. Such a model takes no member by the
attribute name of a reserved one: nothing is read from that. -/
def withWireNames (members : List Member) (fields : Fields) : Fields :=
  let wires := members.map (·.1)
  if wires.any isReserved then
    let names := wires.flatMap fun w => [w, formerName w, attributeOf w]
    wires.filterMap (fun w => (givenMember? w fields).map fun v => (Key.text w, v)) ++
      fields.filter fun f => !(names.map Key.text).contains f.1
  else fields

/-- The field of an object that is a member. -/
def fieldOf (wire : String) : Field := ⟨wire, formerName wire⟩

/-- Complains about the fields that are not read as a member of a model. -/
def extraFields (members : List Member) (fields : Fields) : Checked Unit :=
  let isRead := fun key => members.any fun m =>
    ((fieldOf m.1).find? fields).any fun found => Key.text found.1 = key
  match fields.filter fun f => !isRead f.1 with
  | [] => .accepted ()
  | extra => .refused (extra.map fun f => ⟨.extraField, [.ofKey f.1], .json f.2⟩)

/-! ## All shapes -/

mutual

/-- A value of a shape. -/
def read : Shape → Json → Checked Part
  | text, j => readText j
  | integer, j => readInteger j
  | integerOrText, j => readEither ("int", readInteger) ("str", readText) j
  | flag, j => readFlag j
  | bytes, j => readBytes j
  | moment, j => readMoment j
  | record, j => readRecord j
  | list s, j => (listOf (read s) j).map Part.list
  | map s, j => (mapOf (read s) j).map fun entries =>
    Part.map (entries.map fun e => (Key.text e.1, e.2))
  | model name members, j =>
    Validation.model name (fun fields =>
      match givenTwice? members fields with
      | some wire => refuse (.inconsistent (givenTwiceText name wire)) j
      | none =>
        let fields := withWireNames members fields
        ((readMembers members fields).map fun held _ => Part.model name members held []).and
          (extraFields members fields)) j

/-- The members of a model. -/
def readMembers : List Member → Fields → Checked (List (Key × Part))
  | [], _ => .accepted []
  | (wire, true, s) :: rest, fields =>
    ((Field.required (fieldOf wire) (read s) fields).map fun v =>
      ((Key.text wire, v) :: ·)).and (readMembers rest fields)
  | (wire, false, s) :: rest, fields =>
    ((Field.optional (fieldOf wire) none (nullable (read s)) fields).map fun v =>
      ((Key.text wire, v.getD .nothing) :: ·)).and (readMembers rest fields)

end

/-- A value as a part, with models where its shape has them; one of another shape has none. -/
def typed (s : Shape) (j : Json) : Part := ((s.read j).value?).getD (.ofJson j)

end Shape
end MoodleTenancy
