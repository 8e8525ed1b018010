import MoodleTenancy.Json.Same
import MoodleTenancy.Operator.Pass
import MoodleTenancy.Status.Activity
import MoodleTenancy.Status.Condition

/-!
# What a pass writes into the status

After a pass the status of its tenant is brought up to date: the phase, the conditions, the number
of failures in a row and the activity log. Nothing is written if nothing that can be seen has
changed, so that a status is no reason for another pass.

* `StatusEvent`: a condition, an activity or a failure.
* `PassResult.report`: those of a pass, in order.
* `StatusDraft`: the conditions and the log while they are made.
* `PassResult.patch`: the fields to write after a pass, if any.
* `mergeStatus`, `afterReport`: a tenant's body with the patch over its status.
-/

namespace MoodleTenancy
set_option autoImplicit false

open Numeric

/-! ## What a pass reports -/

def Outcome.phase : Outcome → String
  | converged => "Ready"
  | requeue => "Provisioning"
  | fatal => "Failed"

/-- One more than a number. -/
def successor : Json → Except Fault Json
  | .int n => .ok (.int (n + 1))
  | .bool b => .ok (.int (if b then 2 else 1))
  | .float x => .ok (.float (x.add (.finite false Binary64.one)))
  | j => .error (.noSum j)

namespace Condition

def namespaceReady (ns : String) : Condition :=
  ⟨"NamespaceReady", "True", "Ready", "Namespace " ++ ns ++ " exists"⟩

def resourcesFailed (why : String) : Condition := ⟨"ResourcesReady", "False", "Error", why⟩

def resourcesWaiting : Condition :=
  ⟨"ResourcesReady", "False", "WaitingForNamespace",
    "Resources are created once the namespace is ready"⟩

def resourcesReady : Condition :=
  ⟨"ResourcesReady", "True", "Provisioned", "All resources exist"⟩

end Condition

namespace Activity

def namespaceCreated (ns : String) : Activity :=
  ⟨"NAMESPACE_CREATED", "Namespace " ++ ns ++ " created"⟩

def resourcesCreated (labels : List String) : Activity :=
  ⟨"RESOURCES_CREATED", ", ".intercalate labels⟩

def tenantReady (url : String) : Activity := ⟨"TENANT_READY", "Tenant ready at " ++ url⟩

def passFailed (attempt : Json) (why : String) : Except Fault Activity := do
  return ⟨"RECONCILE_FAILED", "Attempt " ++ (← attempt.writtenOut) ++ ": " ++ why⟩

end Activity

/-- One thing that a pass has to say in the status. -/
inductive StatusEvent where
  | condition (c : Condition)
  | activity (a : Activity)
  /-- A failed pass, by the number of such passes in a row. -/
  | failure (attempt : Json) (why : String)

/-- What a pass reports: a message, the failures in a row, and what to say, in order. -/
structure StatusReport where
  message : String
  retryCount : Json
  events : List StatusEvent

namespace PassResult

def url (r : PassResult) : Option String := r.declaration.map Declaration.url

def namespaceEvents (r : PassResult) (ns : String) : List StatusEvent :=
  .condition (.namespaceReady ns) ::
    (if r.namespaceCreated then [.activity (.namespaceCreated ns)] else [])

/-- What a pass reports, given the number of failures before it and the phase before it. -/
def report (r : PassResult) (ns : String) (previousCount previousPhase : Json) :
    Except Fault StatusReport :=
  match r.outcome with
  | .fatal => do
    let count ← successor previousCount
    let why := Text.firstChars 200 r.faultText
    let brief := Text.firstChars 150 r.faultText
    return ⟨"Reconcile failed: " ++ why, count,
      [.condition (.resourcesFailed why), .failure count brief]⟩
  | .requeue =>
    .ok ⟨"Namespace created, waiting before provisioning resources", .int 0,
      r.namespaceEvents ns ++ [.condition .resourcesWaiting]⟩
  | .converged =>
    .ok ⟨"Tenant is ready", .int 0,
      r.namespaceEvents ns ++ [.condition .resourcesReady] ++
        (if r.created.isEmpty then [] else [.activity (.resourcesCreated r.created)]) ++
        (if previousPhase.isText Outcome.converged.phase then []
          else [.activity (.tenantReady (r.url.getD ""))])⟩

end PassResult

/-- The conditions and the activity log of a status in the making. -/
structure StatusDraft where
  conditions : Json
  log : Json

def StatusDraft.say (now : Time.Instant) (d : StatusDraft) : StatusEvent → Except Fault StatusDraft
  | .condition c => do
    return { d with conditions := .arr (← c.upsert now (← d.conditions.itemsOf)) }
  | .activity a => do
    return { d with log := ← a.append now d.log }
  | .failure attempt why => do
    let a ← Activity.passFailed attempt why
    return { d with log := ← a.append now d.log }

/-! ## The patch -/

namespace PassResult

/-- A value of the status before the pass, or `default` if it does not count as given. -/
def before (status : Json) (key : String) (default : Json) : Except Fault Json := do
  return (← status.field key).orElse default

/-- The fields of the status after a pass, but for the time of writing. -/
def statusFields (s : Settings) (now : Time.Instant) (r : PassResult) (body previous : Json) :
    Except Fault Fields := do
  let conditions ← before previous "conditions" (.arr [])
  let log ← before previous "activityLog" (.arr [])
  let generation ← (← body.entry "metadata").field "generation"
  let ns := Names.space s r.label
  let report ← r.report ns ((previous.get? "retryCount").getD (.int 0))
    (.ofOption (previous.get? "phase"))
  let draft ← report.events.foldlM (StatusDraft.say now) ⟨conditions, log⟩
  return Json.presentFields [("phase", some (.str r.outcome.phase)),
    ("namespace", some (.str ns)),
    ("observedGeneration", some generation),
    ("retryCount", some report.retryCount),
    ("url", r.url.map .str),
    ("message", some (.str report.message)),
    ("conditions", some draft.conditions),
    ("activityLog", some draft.log)]

/-- Whether a status has all the fields; one that is absent counts as null. -/
def isUnchanged (previous : Json) (fields : Fields) : Bool :=
  fields.all fun f => (Json.ofOption (previous.get? f.1)).same f.2

/-- The fields to write into the status after a pass; none without a tenant to write to, and none if
nothing has changed. -/
def patch (s : Settings) (now : Time.Instant) (r : PassResult) : Except Fault (Option Json) :=
  match r.body with
  | none => .ok none
  | some body => do
    let previous := (← body.field "status").orElse (.obj [])
    let fields ← r.statusFields s now body previous
    if isUnchanged previous fields then return none
    else return some (.obj (Fields.set "lastUpdated" (.str (← stamp now)) fields))

@[simp] theorem patch_of_body_eq_none {r : PassResult} (h : r.body = none) (s : Settings)
    (now : Time.Instant) : r.patch s now = .ok none := by
  simp [patch, h]

end PassResult

/-! ## Writing a patch -/

/-- A body with the fields of a patch over its status; a status that does not count as given is
empty. -/
def mergeStatus (body patch : Json) : Json :=
  let status := (Json.ofOption (body.get? "status")).orElse (.obj [])
  match status, patch with
  | .obj fields, .obj changes => body.set "status" (.obj (Fields.overlay fields changes))
  | _, _ => body

/-- The body after the report of a pass for it, with the patch that was merged into its status. A
report that fails leaves the body as it is. -/
def afterReport (s : Settings) (now : Time.Instant) (body : Json) (r : PassResult) :
    Json × Except Fault (Option Json) :=
  match r.patch s now with
  | .ok (some patch) => (mergeStatus body patch, .ok (some patch))
  | other => (body, other)

end MoodleTenancy
