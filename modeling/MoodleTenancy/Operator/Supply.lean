import MoodleTenancy.Child.Component
import MoodleTenancy.Operator.World

/-!
# Supplying objects

An object is created unless there is one of its kind, namespace and name; what is there stays as it
is, whatever it says.

* `Manifest.supply`: supplies one object.
* `openNamespace`, `closeNamespace`: supplies and deletes the namespace of a tenant.
* `supplyComponents`: supplies the objects of components, in order, as far as it gets.
-/

namespace MoodleTenancy
set_option autoImplicit false

variable {σ : Type} [ApiServer σ]

/-- Whether an object was made or was there. -/
inductive Supplied where
  | created
  | present
deriving DecidableEq

def Supplied.name : Supplied → String
  | created => "created"
  | present => "exists"

namespace Manifest

def label (m : Manifest) : String := m.key.kind.name ++ " " ++ m.key.place

/-- Creates an object that is not there yet. -/
def create (m : Manifest) : Job σ Supplied := do
  Job.info .objects ("Creating " ++ m.label)
  let _ ← (Job.call (ApiServer.create m.key.kind m)).rescue fun fault => do
    Job.log .objects .error ("Failed to create " ++ m.label ++ ": " ++ fault.message)
    Task.fail fault
  return .created

/-- Creates an object unless it is there. -/
def supply (m : Manifest) : Job σ Supplied := do
  match ← Job.call (ApiServer.read m.key.kind m.key.name m.key.namespaceName) with
  | some _ =>
    Job.info .objects (m.label ++ " already exists")
    return .present
  | none => m.create

end Manifest

/-! ## Namespaces -/

/-- Supplies the namespace of a tenant; whether it is new. -/
def openNamespace (s : Settings) (t : Declaration) : Job σ Bool := do
  return (← (Child.space s t).manifest.supply) = .created

/-- Deletes the namespace of a tenant; whether there was one. -/
def closeNamespace (s : Settings) (id : String) : Job σ Bool := do
  let name := Names.space s id
  if ← Job.call (ApiServer.delete .namespaceKind name none) then
    Job.info .namespaces ("Namespace " ++ name ++ " deletion initiated")
    return true
  else
    Job.info .namespaces ("Namespace " ++ name ++ " already gone")
    return false

/-! ## Components -/

def Child.label (c : Child) : String := c.kind.name ++ "/" ++ c.name

/-- Supplies the object of a component; its label, if it is new. -/
def supplyComponent (s : Settings) (t : Declaration) (ns : String) (p : Component) :
    Job σ (Option String) := do
  let child ← Task.ofExcept (p.build s t (some ns))
  match ← child.manifest.supply with
  | .created => return some child.label
  | .present => return none

/-- The labels of the objects made, and the fault that ended the making. -/
structure Progress where
  created : List String := []
  fault : Option Fault := none

/-- Supplies the objects of the components that are needed, up to the first fault, in a pass for
`name`. -/
def supplyComponents (s : Settings) (name : String) (t : Declaration) (ns : String) :
    List Component → World σ → Progress × World σ
  | [], w => ({}, w)
  | p :: rest, w =>
    if p.isNeeded t then
      match (supplyComponent s t ns p).run w with
      | (.error fault, w) => ({ fault := some fault }, w)
      | (.ok none, w) => supplyComponents s name t ns rest w
      | (.ok (some label), w) =>
        let (later, w) := supplyComponents s name t ns rest w
        ({ later with created := label :: later.created }, w)
    else
      supplyComponents s name t ns rest
        (w.log .pass .info ("[" ++ name ++ "] Autoscaling disabled, skipping " ++ p.name))

end MoodleTenancy
