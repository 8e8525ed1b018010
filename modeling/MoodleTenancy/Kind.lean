/-!
# Kinds of cluster objects

* `Kind`: the kinds of objects that a tenant has.
* `Kind.name`, `Kind.ofName?`: the name of a kind, and the kind of a name.
* `Kind.apiVersion`, `Kind.plural`: where the API server keeps objects of a kind.
* `ObjectKey`: what tells the objects of a cluster apart.
-/

namespace MoodleTenancy
set_option autoImplicit false

inductive Kind where
  | namespaceKind
  | secret
  | deployment
  | persistentVolumeClaim
  | service
  | ingress
  | networkPolicy
  | horizontalPodAutoscaler
  | cronJob
  | podDisruptionBudget
deriving DecidableEq, Inhabited

namespace Kind

def name : Kind → String
  | namespaceKind => "Namespace"
  | secret => "Secret"
  | deployment => "Deployment"
  | persistentVolumeClaim => "PersistentVolumeClaim"
  | service => "Service"
  | ingress => "Ingress"
  | networkPolicy => "NetworkPolicy"
  | horizontalPodAutoscaler => "HorizontalPodAutoscaler"
  | cronJob => "CronJob"
  | podDisruptionBudget => "PodDisruptionBudget"

def all : List Kind :=
  [namespaceKind, secret, deployment, persistentVolumeClaim, service, ingress, networkPolicy,
    horizontalPodAutoscaler, cronJob, podDisruptionBudget]

def ofName? (s : String) : Option Kind :=
  all.find? fun k => k.name = s

@[simp] theorem ofName?_name (k : Kind) : ofName? k.name = some k := by
  cases k <;> decide

theorem name_inj {k l : Kind} (h : k.name = l.name) : k = l := by
  have := congrArg ofName? h
  simpa using this

/-- The API group, empty for the core group. -/
def group : Kind → String
  | deployment => "apps"
  | ingress => "networking.k8s.io"
  | networkPolicy => "networking.k8s.io"
  | horizontalPodAutoscaler => "autoscaling"
  | cronJob => "batch"
  | podDisruptionBudget => "policy"
  | _ => ""

/-- The version of the API group. -/
def version : Kind → String
  | horizontalPodAutoscaler => "v2"
  | _ => "v1"

/-- The version as objects state it. -/
def apiVersion (k : Kind) : String :=
  if k.group = "" then k.version else k.group ++ "/" ++ k.version

def plural : Kind → String
  | namespaceKind => "namespaces"
  | secret => "secrets"
  | deployment => "deployments"
  | persistentVolumeClaim => "persistentvolumeclaims"
  | service => "services"
  | ingress => "ingresses"
  | networkPolicy => "networkpolicies"
  | horizontalPodAutoscaler => "horizontalpodautoscalers"
  | cronJob => "cronjobs"
  | podDisruptionBudget => "poddisruptionbudgets"

/-- The kind as it appears in the names of API calls. -/
def callName : Kind → String
  | namespaceKind => "namespace"
  | secret => "secret"
  | deployment => "deployment"
  | persistentVolumeClaim => "persistent_volume_claim"
  | service => "service"
  | ingress => "ingress"
  | networkPolicy => "network_policy"
  | horizontalPodAutoscaler => "horizontal_pod_autoscaler"
  | cronJob => "cron_job"
  | podDisruptionBudget => "pod_disruption_budget"

end Kind

/-- What tells the objects of a cluster apart. -/
structure ObjectKey where
  kind : Kind
  namespaceName : Option String
  name : String
deriving DecidableEq

/-- The name of an object with its namespace, if it has one. -/
def ObjectKey.place (k : ObjectKey) : String :=
  match k.namespaceName with
  | some ns => if ns = "" then k.name else ns ++ "/" ++ k.name
  | none => k.name

end MoodleTenancy
