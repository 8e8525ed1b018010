import MoodleTenancy.Fault
import MoodleTenancy.Schema.Part

/-!
# Sending cluster objects

A program that writes into the map of all that an object holds gets past the shapes of members. What
it leaves there is sent as it is, but for the members that hold models: those are gone through one
by one, in the order in which the model declares them, and each has to be there.

* `Part.settled`: a part once all models in it were gone through. `Part.settled_ofJson`: one without
  models stays as it is.
-/

namespace MoodleTenancy
set_option autoImplicit false

namespace Part

/-- Whether there is anything in a part. -/
def isTruthy : Part → Bool
  | value j => j.isTruthy
  | list items => !items.isEmpty
  | map fields => !fields.isEmpty
  | _ => true

/-- The items of a part in the place of a list of models. One without anything in it is let be. -/
def asList (p : Part) : Except Fault Part :=
  if p.isTruthy then
    match p with
    | list items => .ok (list items)
    | map fields => .ok (list (fields.map fun f => value (.ofKey f.1)))
    | value j => j.itemsOf.map fun items => list (items.map value)
    | p => .error (.noItems p.kindName)
  else .ok p

/-- The members of a model in their order. Only one that holds models is missed. -/
def inOrder (name : String) :
    List Member → List (Key × Except Fault Part) → Except Fault (List (Key × Part))
  | [], _ => .ok []
  | (wire, _, s) :: rest, held =>
    match Fields.get? wire held with
    | some p => do
      let p ← p
      return (Key.text wire, p) :: (← inOrder name rest held)
    | none =>
      if s.holdsModels then .error (.lacksMember name (attributeOf wire))
      else inOrder name rest held

/-- Whether a member holds a list of models. -/
def isListOfModels (members : List Member) (wire : Key) : Bool :=
  members.any fun m => Key.text m.1 = wire && m.2.2.listsModels

mutual

/-- A part after all models in it were gone through. -/
def settled : Part → Except Fault Part
  | model name members held notes =>
    (inOrder name members (settledMembers members held)).map fun held =>
      model name members held notes
  | p => .ok p
termination_by structural p => p

def settledMembers (members : List Member) :
    List (Key × Part) → List (Key × Except Fault Part)
  | [] => []
  | (wire, list items) :: rest =>
    (wire, if isListOfModels members wire then (settledItems items).map list else .ok (list items))
      :: settledMembers members rest
  | (wire, p) :: rest =>
    (wire, if isListOfModels members wire then p.asList else settled p)
      :: settledMembers members rest
termination_by structural held => held

/-- Items without anything in them are left out. -/
def settledItems : List Part → Except Fault (List Part)
  | [] => .ok []
  | p :: rest => do
    let p' ← settled p
    let rest' ← settledItems rest
    return if p.isTruthy then p' :: rest' else rest'
termination_by structural items => items

end

/-- Without models there is nothing to go through. -/
@[simp] theorem settled_ofJson (j : Json) : (ofJson j).settled = .ok (ofJson j) := by
  cases j <;> rfl

end Part
end MoodleTenancy
