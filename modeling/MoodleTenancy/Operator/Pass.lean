import MoodleTenancy.Operator.Guard

/-!
# Passes

A pass brings the cluster in line with one tenant: it cleans up after a tenant that is being deleted
and otherwise guards it, opens its namespace and then, in a later pass, supplies its objects. Every
step looks before it makes, so a pass that was cut short can be run again from the start.

* `Outcome`: how a pass ends. `PassResult`: that, and what the pass saw and did.
* `Operator.reconcile`: one pass. It never fails; a fault makes it a fatal pass.
-/

namespace MoodleTenancy
set_option autoImplicit false

open Numeric

inductive Outcome where
  | converged
  | requeue
  | fatal
deriving DecidableEq

namespace Outcome

def name : Outcome → String
  | converged => "Converged"
  | requeue => "Requeue"
  | fatal => "Fatal"

def all : List Outcome := [converged, requeue, fatal]

def parse (s : String) : Except Fault Outcome :=
  match all.find? fun o => o.name = s with
  | some o => .ok o
  | none => .error (.unknownOutcome s)

end Outcome

structure PassResult where
  outcome : Outcome
  name : Json
  /-- The tenant as last seen, unless it is gone or going. -/
  body : Option Json := none
  declaration : Option Declaration := none
  namespaceCreated : Bool := false
  /-- The labels of the objects made, in order. -/
  created : List String := []
  fault : Option Fault := none
  requeueAfter : Option Binary64 := none

namespace PassResult

/-- A pass that has done nothing yet. -/
def start (name : Json) : PassResult := { outcome := .converged, name := name }

def label (r : PassResult) : String := r.name.plain

def faultText (r : PassResult) : String := r.fault.elim "None" Fault.message

variable {σ : Type}

def abort (r : PassResult) (fault : Fault) (w : World σ) : PassResult × World σ :=
  ({ r with outcome := .fatal, fault := some fault },
    w.log .pass .error ("Tenant " ++ r.label ++ ": reconcile failed: " ++ fault.message))

end PassResult

namespace Operator

variable {σ : Type} [ApiServer σ]

/-- Goes on with a tenant whose namespace was there before the pass. -/
def supplyAll (op : Operator) (r : PassResult) (t : Declaration) (w : World σ) :
    PassResult × World σ :=
  let ns := Names.space op.settings t.identifier
  let (progress, w) := supplyComponents op.settings r.label t ns Component.all w
  let r := { r with created := progress.created }
  match progress.fault with
  | some fault => r.abort fault w
  | none => (r, w.log .pass .info ("Successfully reconciled tenant " ++ r.label))

/-- Goes on with a guarded tenant. Its objects wait for a later pass if its namespace is new, since
a new namespace may not be ready for them. A guard that is answered with null leaves no tenant to be
seen. -/
def maintain (op : Operator) (r : PassResult) (body : Json) (w : World σ) :
    PassResult × World σ :=
  let r := { r with body := body.toOption }
  match Declaration.parse body with
  | .error fault => r.abort fault w
  | .ok t =>
    let r := { r with declaration := some t }
    let w := w.log .pass .info
      ("[" ++ r.label ++ "] Ensuring namespace " ++ Names.space op.settings t.identifier)
    match (openNamespace op.settings t).run w with
    | (.error fault, w) => r.abort fault w
    | (.ok true, w) =>
      ({ r with
        outcome := .requeue
        namespaceCreated := true
        requeueAfter := op.requeueDelay }, w)
    | (.ok false, w) => op.supplyAll r t w

/-- Goes on with a tenant that was found. -/
def reconcileBody (op : Operator) (r : PassResult) (body : Json) (w : World σ) :
    PassResult × World σ :=
  match op.stage body with
  | .error fault => r.abort fault w
  | .ok .leaving =>
    match (op.cleanUp body).run w with
    | (.error fault, w) => r.abort fault w
    | (.ok _, w) => (r, w)
  | .ok .released =>
    (r, w.log .pass .info
      ("Tenant " ++ r.label ++ " is being deleted, nothing left to clean up"))
  | .ok .guarded => op.maintain r body w
  | .ok .unguarded =>
    match (op.guardTenant body).run w with
    | (.error fault, w) => { r with body := some body }.abort fault w
    | (.ok guarded, w) => op.maintain r guarded w

/-- One pass for the tenant of a name. -/
def reconcile (op : Operator) (name : Json) (w : World σ) : PassResult × World σ :=
  let r := PassResult.start name
  match (Job.call (ApiServer.readTenant name)).run w with
  | (.error fault, w) => r.abort fault w
  | (.ok none, w) =>
    (r, w.log .pass .info
      ("Tenant " ++ r.label ++ " not found, ignoring since it must have been deleted"))
  | (.ok (some body), w) => op.reconcileBody r body w

end Operator
end MoodleTenancy
