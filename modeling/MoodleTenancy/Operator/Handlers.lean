import MoodleTenancy.Status.Report

/-!
# Handlers

Events come from a framework that calls a handler for each and owns the timing: a handler that
returns is done, and one that asks for a retry is called again after a delay. Every handler comes
down to one pass and a report of it.

* `Operator.pass`, `Operator.publish`, `Operator.attend`: a pass, the report of one, and both.
* `Settings.backoff`: the delay after a failed pass, doubled at each retry up to a cap.
* `Operator.settle`: turns a pass that has more to do into a retry.
* `Operator.onChange`, `onDelete`, `onTimer`, `onObjectEvent`: the handlers.
-/

namespace MoodleTenancy
set_option autoImplicit false

open Numeric

/-! ## Retries -/

/-- Two to the power of an integer. A positive power is an integer first, which has to be within the
range of binary numbers; a negative one that is too small for them is zero. -/
def twoTo (n : Int) : Except Fault Binary64 :=
  if 1024 ≤ n then .error .tooGreat
  else if -1074 ≤ n then .ok (.finite false (Nat.pow 2 (1074 + n).toNat))
  else if (Binary64.ofInt? n).isNone then .error .tooGreat
  else .ok .zero

/-- The delay after a failed pass, in seconds. -/
def Settings.backoff (s : Settings) (retry : Int) : Except Fault Binary64 := do
  return (s.retryBackoffBase.mul (← twoTo retry)).min s.retryBackoffMax

namespace Operator

/-- Asks for a retry of a pass that has more to do. -/
def settle (op : Operator) (r : PassResult) (retry : Int) : Except Fault Unit :=
  match r.outcome with
  | .converged => .ok ()
  | .requeue =>
    let delay := r.requeueAfter.getD .zero
    .error (.retryLater
      ("Namespace for " ++ r.label ++ " just created, provisioning on next pass")
      (if delay.isZero then .zero else delay))
  | .fatal => do
    let delay ← op.settings.backoff retry
    .error (.retryLater ("Reconcile failed: " ++ r.faultText) delay)

variable {σ : Type} [ApiServer σ]

/-! ## A pass and its report -/

/-- A pass as a job; it never fails. -/
def pass (op : Operator) (name : Json) : Job σ PassResult := fun w =>
  (.ok (op.reconcile name w).1, (op.reconcile name w).2)

/-- Writes the status after a pass, if it has changed; a tenant that is gone by then needs none. -/
def publish (op : Operator) (now : Time.Instant) (r : PassResult) : Job σ Unit := do
  match ← Task.ofExcept (r.patch op.settings now) with
  | none => return ()
  | some patch =>
    (Job.call (ApiServer.patchTenantStatus r.name patch)).rescue fun fault =>
      if fault.isNotFound then
        Job.info .operator ("Tenant " ++ r.label ++ " gone before status update")
      else Task.fail fault

/-- A pass and its report. Those of one tenant take turns under its name, which has to be one that
things can be kept under. -/
def attend (op : Operator) (now : Time.Instant) (name : Json) : Job σ PassResult := do
  let _ ← Task.ofExcept name.asKey
  let r ← op.pass name
  op.publish now r
  return r

/-! ## Handlers -/

/-- A tenant was created or changed, or the operator has started. -/
def onChange (op : Operator) (now : Time.Instant) (name : Json) (retry : Int) : Job σ Unit := do
  let r ← op.attend now name
  Task.ofExcept (op.settle r retry)

/-- A tenant is to be deleted. -/
def onDelete (op : Operator) (now : Time.Instant) (name : Json) (retry : Int) : Job σ Unit := do
  let r ← op.attend now name
  Task.ofExcept (op.settle r retry)

/-- It is time to look after a tenant, so that objects deleted unseen come back. -/
def onTimer (op : Operator) (now : Time.Instant) (name : Json) : Job σ Unit := do
  let r ← op.attend now name
  if r.outcome = .converged then return ()
  else
    Job.log .operator .warning ("Resync of tenant " ++ r.label ++ " ended " ++ r.outcome.name ++
      ", next resync retries")

/-- Whether a stored tenant is marked for deletion. -/
def isLeaving (body : Json) : Except Fault Bool := do
  return (← (← body.entry "metadata").field "deletionTimestamp").isTruthy

/-- An object of a tenant was deleted. A tenant that is gone or going is left alone. -/
def objectLost (op : Operator) (now : Time.Instant) (tenant : Json) : Job σ Unit := do
  match ← Job.call (ApiServer.readTenant tenant) with
  | none => return ()
  | some body =>
    if ← Task.ofExcept (isLeaving body) then return ()
    else
      let r ← op.attend now tenant
      if r.outcome = .converged then return ()
      else
        Job.log .operator .warning ("Tenant " ++ r.label ++
          ": pass after child deletion ended " ++ r.outcome.name)

/-- The tenant to look after at an event: the one that a deleted object is labelled with. -/
def tenantOf (event labels : Json) : Except Fault (Option Json) := do
  if (← event.field "type").isText "DELETED" then
    let tenant ← labels.field Names.labelKey
    if tenant.isTruthy then return some tenant else return none
  else return none

/-- Something happened to an object that carries the tenant label. -/
def onObjectEvent (op : Operator) (now : Time.Instant) (event labels : Json) : Job σ Unit := do
  match ← Task.ofExcept (tenantOf event labels) with
  | none => return ()
  | some tenant =>
    Job.info .operator
      ("Owned object of tenant " ++ tenant.plain ++ " deleted, re-running its pass")
    op.objectLost now tenant

/-! ## Runs -/

@[simp] theorem run_pass (op : Operator) (name : Json) (w : World σ) :
    (op.pass name).run w = (.ok (op.reconcile name w).1, (op.reconcile name w).2) := rfl

theorem run_attend (op : Operator) (now : Time.Instant) {name : Json} {key : Key}
    (h : name.asKey = .ok key) (w : World σ) :
    (op.attend now name).run w =
      match (op.publish now (op.reconcile name w).1).run (op.reconcile name w).2 with
      | (.ok _, w') => (.ok (op.reconcile name w).1, w')
      | (.error fault, w') => (.error fault, w') := by
  have hk : (Task.ofExcept name.asKey).run w = (.ok key, w) := by rw [Task.run_ofExcept, h]
  rw [attend, Task.run_bind_ok hk, Task.run_bind_ok (op.run_pass name w), Task.run_bind]
  rcases (op.publish now (op.reconcile name w).1).run (op.reconcile name w).2 with ⟨e, w'⟩
  cases e <;> rfl

end Operator
end MoodleTenancy
