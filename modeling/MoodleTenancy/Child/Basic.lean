import MoodleTenancy.Child.Pod
import MoodleTenancy.Schema.OfKind

/-!
# Child objects

* `ChildSpec`: what an object of each kind says, in the terms that tenants need.
* `Child`: an object with its metadata.
* `Child.key`: what tells it apart in a cluster.
* `Child.toJson`: its wire form.
-/

namespace MoodleTenancy
set_option autoImplicit false

/-! ## What each kind says -/

/-- The entries of a secret, by key. -/
abbrev SecretData := List (String × String)

structure DeploymentSpec where
  replicas : Int
  selected : Labels
  template : PodTemplate
deriving DecidableEq

structure ClaimSpec where
  accessMode : String
  storageClass : String
  size : String
deriving DecidableEq

structure ServiceSpec where
  selected : Labels
  port : Nat
  targetPort : Nat
deriving DecidableEq

/-- All of a host's traffic goes to one port of a service. -/
structure IngressSpec where
  className : String
  host : String
  tlsHost : String
  tlsSecret : String
  service : String
  port : Nat
deriving DecidableEq

structure PolicyPort where
  protocol : String
  number : Int
deriving DecidableEq

/-- Traffic to the namespaces with the labels, or to anywhere. -/
structure EgressRule where
  destination : Option Labels
  ports : List PolicyPort
deriving DecidableEq

/-- All traffic is denied but what the rules allow. -/
structure PolicySpec where
  sources : List Labels
  egress : List EgressRule
deriving DecidableEq

structure AutoscalerSpec where
  targetApiVersion : String
  targetKind : String
  targetName : String
  minReplicas : Int
  maxReplicas : Int
  cpu : Int
deriving DecidableEq

structure CronSpec where
  schedule : String
  template : PodTemplate
deriving DecidableEq

structure BudgetSpec where
  minAvailable : Nat
  selected : Labels
deriving DecidableEq

inductive ChildSpec where
  | namespaceSpec
  | secret (data : SecretData)
  | deployment (spec : DeploymentSpec)
  | claim (spec : ClaimSpec)
  | service (spec : ServiceSpec)
  | ingress (spec : IngressSpec)
  | policy (spec : PolicySpec)
  | autoscaler (spec : AutoscalerSpec)
  | cron (spec : CronSpec)
  | budget (spec : BudgetSpec)
deriving DecidableEq

def ChildSpec.kind : ChildSpec → Kind
  | namespaceSpec => .namespaceKind
  | secret _ => .secret
  | deployment _ => .deployment
  | claim _ => .persistentVolumeClaim
  | service _ => .service
  | ingress _ => .ingress
  | policy _ => .networkPolicy
  | autoscaler _ => .horizontalPodAutoscaler
  | cron _ => .cronJob
  | budget _ => .podDisruptionBudget

/-! ## Wire forms -/

def DeploymentSpec.toJson (d : DeploymentSpec) : Json :=
  .obj [("replicas", .int d.replicas),
    ("selector", selector d.selected),
    ("template", d.template.toJson)]

def ClaimSpec.toJson (c : ClaimSpec) : Json :=
  .obj [("accessModes", .strings [c.accessMode]),
    ("resources", .obj [("requests", .obj [("storage", .str c.size)])]),
    ("storageClassName", .str c.storageClass)]

def ServiceSpec.toJson (s : ServiceSpec) : Json :=
  .obj [("ports", .arr [.obj [("name", .str "http"), ("port", .nat s.port),
      ("protocol", .str "TCP"), ("targetPort", .nat s.targetPort)]]),
    ("selector", .ofLabels s.selected),
    ("type", .str "ClusterIP")]

def IngressSpec.toJson (i : IngressSpec) : Json :=
  let backend := Json.obj [("service", .obj [("name", .str i.service),
    ("port", .obj [("number", .nat i.port)])])]
  let path := Json.obj [("backend", backend), ("path", .str "/"), ("pathType", .str "Prefix")]
  .obj [("ingressClassName", .str i.className),
    ("rules", .arr [.obj [("host", .str i.host), ("http", .obj [("paths", .arr [path])])]]),
    ("tls", .arr [.obj [("hosts", .strings [i.tlsHost]), ("secretName", .str i.tlsSecret)]])]

def peer (labels : Labels) : Json := .obj [("namespaceSelector", selector labels)]

def PolicyPort.toJson (p : PolicyPort) : Json :=
  .obj [("port", .int p.number), ("protocol", .str p.protocol)]

def EgressRule.toJson (r : EgressRule) : Json :=
  .ofFields [("ports", some (.arr (r.ports.map PolicyPort.toJson))),
    ("to", r.destination.map fun l => .arr [peer l])]

def PolicySpec.toJson (p : PolicySpec) : Json :=
  .obj [("egress", .arr (p.egress.map EgressRule.toJson)),
    ("ingress", .arr [.obj [("from", .arr (p.sources.map peer))]]),
    ("podSelector", .obj []),
    ("policyTypes", .strings ["Ingress", "Egress"])]

def AutoscalerSpec.toJson (a : AutoscalerSpec) : Json :=
  let target := Json.obj [("averageUtilization", .int a.cpu), ("type", .str "Utilization")]
  .obj [("maxReplicas", .int a.maxReplicas),
    ("metrics", .arr [.obj [("resource", .obj [("name", .str "cpu"), ("target", target)]),
      ("type", .str "Resource")]]),
    ("minReplicas", .int a.minReplicas),
    ("scaleTargetRef", .obj [("apiVersion", .str a.targetApiVersion),
      ("kind", .str a.targetKind), ("name", .str a.targetName)])]

def CronSpec.toJson (c : CronSpec) : Json :=
  .obj [("jobTemplate", .obj [("spec", .obj [("template", c.template.toJson)])]),
    ("schedule", .str c.schedule)]

def BudgetSpec.toJson (b : BudgetSpec) : Json :=
  .obj [("minAvailable", .nat b.minAvailable), ("selector", selector b.selected)]

def ChildSpec.fields : ChildSpec → List (String × Option Json)
  | namespaceSpec => []
  | secret data => [("stringData", some (.ofLabels data)), ("type", some (.str "Opaque"))]
  | deployment d => [("spec", some d.toJson)]
  | claim c => [("spec", some c.toJson)]
  | service s => [("spec", some s.toJson)]
  | ingress i => [("spec", some i.toJson)]
  | policy p => [("spec", some p.toJson)]
  | autoscaler a => [("spec", some a.toJson)]
  | cron c => [("spec", some c.toJson)]
  | budget b => [("spec", some b.toJson)]

/-! ## Objects -/

/-- The object that an object goes with: deleted together, and controlled by it. -/
structure Owner where
  apiVersion : String
  kind : String
  name : String
  uid : String
deriving DecidableEq

def Owner.toJson (o : Owner) : Json :=
  .obj [("apiVersion", .str o.apiVersion),
    ("blockOwnerDeletion", .bool true),
    ("controller", .bool true),
    ("kind", .str o.kind),
    ("name", .str o.name),
    ("uid", .str o.uid)]

structure Child where
  name : String
  namespaceName : Option String
  labels : Labels
  owner : Option Owner
  spec : ChildSpec
deriving DecidableEq

namespace Child

def kind (c : Child) : Kind := c.spec.kind

def key (c : Child) : ObjectKey := ⟨c.kind, c.namespaceName, c.name⟩

def metadata (c : Child) : Json :=
  .ofFields [("labels", some (.ofLabels c.labels)),
    ("name", some (.str c.name)),
    ("namespace", c.namespaceName.map .str),
    ("ownerReferences", c.owner.map fun o => .arr [o.toJson])]

def toJson (c : Child) : Json :=
  .ofFields ([("apiVersion", some (.str c.kind.apiVersion)),
    ("kind", some (.str c.kind.name)),
    ("metadata", some c.metadata)] ++ c.spec.fields)

end Child

end MoodleTenancy
