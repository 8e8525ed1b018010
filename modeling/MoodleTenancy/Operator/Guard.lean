import MoodleTenancy.Declaration.Reading
import MoodleTenancy.Operator.Supply

/-!
# The guard of a tenant

A finalizer guards a tenant: the API server keeps a tenant marked for deletion until its finalizers
are gone, and the operator takes its own off only after the tenant's namespace was deleted.

* `Stage`: where a tenant stands between its creation and its end.
* `Operator.stage`: the stage that a tenant's metadata shows.
* `Operator.guardTenant`: puts the guard on. `Operator.cleanUp`: takes it off, the namespace first.
-/

namespace MoodleTenancy
set_option autoImplicit false

inductive Stage where
  | unguarded
  | guarded
  | leaving
  | released
deriving DecidableEq

namespace Stage

def name : Stage → String
  | unguarded => "NoGuard"
  | guarded => "Guarded"
  | leaving => "CleaningUp"
  | released => "GuardReleased"

/-- The stage of a tenant that is marked for deletion or not, and has the guard or not. -/
def of (isMarked isGuarded : Bool) : Stage :=
  match isMarked, isGuarded with
  | true, true => leaving
  | true, false => released
  | false, true => guarded
  | false, false => unguarded

end Stage

namespace Operator

def stage (op : Operator) (body : Json) : Except Fault Stage := do
  let m ← Metadata.parse (← body.entry "metadata")
  return .of m.isMarked (m.finalizers.contains op.guard)

/-! ## Finalizers of a stored tenant -/

/-- The finalizers in a tenant's metadata; none if they are absent or do not count as given. -/
def finalizersIn (metadata : Json) : Except Fault (List Json) := do
  let finalizers ← metadata.field "finalizers"
  if finalizers.isTruthy then finalizers.itemsOf else return []

/-- The body with other finalizers. -/
def replaceFinalizers (body : Json) (finalizers : List Json) : Json :=
  body.set "metadata"
    ((Json.ofOption (body.get? "metadata")).set "finalizers" (.arr finalizers))

variable {σ : Type} [ApiServer σ]

/-- Puts the guard on a tenant, behind its other finalizers; the tenant as stored then. -/
def guardTenant (op : Operator) (body : Json) : Job σ Json := do
  let metadata ← Task.ofExcept (body.entry "metadata")
  let name ← Task.ofExcept (metadata.entry "name")
  let finalizers ← Task.ofExcept (finalizersIn metadata)
  if finalizers.any (·.isText op.guard) then return body
  else
    Job.info .guard ("Tenant " ++ name.plain ++ ": registering finalizer " ++ op.guard)
    Job.call (ApiServer.replaceTenant (replaceFinalizers body (finalizers ++ [.str op.guard])))

/-- Deletes a tenant's namespace and then takes the guard off; the tenant as stored last. -/
def cleanUp (op : Operator) (body : Json) : Job σ Json := do
  let metadata ← Task.ofExcept (body.entry "metadata")
  let name := (← Task.ofExcept (metadata.entry "name")).plain
  Job.info .guard ("Tenant " ++ name ++ ": finalizing")
  let _ ← closeNamespace op.settings name
  let finalizers ← Task.ofExcept (finalizersIn metadata)
  let others := finalizers.filter fun f => !f.isText op.guard
  let released ← Job.call (ApiServer.replaceTenant (replaceFinalizers body others))
  Job.info .guard ("Tenant " ++ name ++ ": finalizer released")
  return released

end Operator
end MoodleTenancy
