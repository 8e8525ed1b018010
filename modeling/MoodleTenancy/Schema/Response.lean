import MoodleTenancy.Fault
import MoodleTenancy.Schema.Reading

/-!
# Objects in responses

An object that an API server answers with is built from the inside, one model at a time, and the
first model that cannot be built is reported on its own. Members that a model does not have are left
out.

* `Shape.received`: the value of a member in a response.
* `Shape.receive`: builds all models of a response.
-/

namespace MoodleTenancy
set_option autoImplicit false

namespace Shape

open Validation

/-- The value of a member in a response, null if it is absent. -/
def received (wire : String) (fields : Fields) : Json := .ofOption (givenMember? wire fields)

/-- The issues of a member whose own models are built already. -/
def memberIssues (fields : Fields) : Member → List Issue
  | (wire, isNeeded, s) =>
    match s, received wire fields with
    | s, .null => if isNeeded then ((s.read .null).within (.key wire)).issues else []
    | model _ _, _ => []
    | list (model name _), j =>
      match j with
      | .arr items =>
        ((listOf (fun i => if i.isNull then refuse (.notModel name) i else .accepted i)
          (.arr items)).within (.key wire)).issues
      | _ => []
    | s, j => ((s.read j).within (.key wire)).issues

mutual

/-- Builds a model, after the models in it. -/
def receive : Shape → Json → Except Fault Unit
  | model name members, .obj fields => do
    if let some wire := givenTwice? members fields then .error (.givenTwice name wire)
    receiveMembers members fields
    (Report.ofIssues name (members.flatMap (memberIssues fields))).mapError .invalid
  | model name _, j => .error (.invalid ⟨name, [⟨.notModel name, [], .json j⟩]⟩)
  | list s, j =>
    if s.name?.isSome then do
      (← j.itemsOf).forM fun item => if item.isNull then .ok () else receive s item
    else .ok ()
  | _, _ => .ok ()

/-- Builds the models in the members of a model. -/
def receiveMembers : List Member → Fields → Except Fault Unit
  | [], _ => .ok ()
  | (wire, _, s) :: rest, fields => do
    match received wire fields with
    | .null => receiveMembers rest fields
    | j =>
      receive s j
      receiveMembers rest fields

end

end Shape
end MoodleTenancy
