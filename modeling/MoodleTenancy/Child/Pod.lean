import MoodleTenancy.Json.Basic
import MoodleTenancy.Names

/-!
# Pods

* `Container`: an image with its environment, ports, resources, volume mounts and probes.
* `PodTemplate`: the containers and volumes of the pods of a workload.
* `PodTemplate.toJson`: its wire form, without the fields that are not given.
-/

namespace MoodleTenancy
set_option autoImplicit false

namespace Json

def ofLabels (labels : Labels) : Json :=
  ofList (labels.map fun l => (l.1, str l.2))

def nat (n : Nat) : Json := int n

def list? (items : List Json) : Option Json :=
  if items.isEmpty then none else some (arr items)

end Json

def selector (labels : Labels) : Json := .obj [("matchLabels", .ofLabels labels)]

/-! ## Containers -/

inductive EnvSource where
  | value (text : String)
  /-- The entry of a secret under a key. -/
  | secretKey (secret key : String)
deriving DecidableEq

structure EnvVar where
  name : String
  source : EnvSource
deriving DecidableEq

def EnvVar.toJson (v : EnvVar) : Json :=
  match v.source with
  | .value text => .obj [("name", .str v.name), ("value", .str text)]
  | .secretKey secret key =>
    .obj [("name", .str v.name),
      ("valueFrom", .obj [("secretKeyRef", .obj [("key", .str key), ("name", .str secret)])])]

structure ContainerPort where
  name : String
  number : Nat
deriving DecidableEq

def ContainerPort.toJson (p : ContainerPort) : Json :=
  .obj [("containerPort", .nat p.number), ("name", .str p.name), ("protocol", .str "TCP")]

structure VolumeMount where
  volume : String
  path : String
deriving DecidableEq

def VolumeMount.toJson (m : VolumeMount) : Json :=
  .obj [("mountPath", .str m.path), ("name", .str m.volume)]

/-- A probe of a TCP port; times in seconds. -/
structure Probe where
  port : Nat
  initialDelay : Nat
  period : Nat
  timeout : Nat
  failureThreshold : Nat
deriving DecidableEq

def Probe.toJson (p : Probe) : Json :=
  .obj [("failureThreshold", .nat p.failureThreshold),
    ("initialDelaySeconds", .nat p.initialDelay),
    ("periodSeconds", .nat p.period),
    ("tcpSocket", .obj [("port", .nat p.port)]),
    ("timeoutSeconds", .nat p.timeout)]

/-- Amounts of resources by resource name. -/
structure ResourceBounds where
  requests : List (String × String)
  limits : List (String × String)
deriving DecidableEq

/-- A map of amounts, unless it is empty. -/
def amounts (qs : List (String × String)) : Option Json :=
  if qs.isEmpty then none else some (.obj (qs.map fun q => (q.1, .str q.2)))

def ResourceBounds.toJson (r : ResourceBounds) : Json :=
  .ofFields [("limits", amounts r.limits), ("requests", amounts r.requests)]

structure Container where
  name : String
  image : String
  command : List String := []
  ports : List ContainerPort := []
  env : List EnvVar := []
  resources : Option ResourceBounds := none
  mounts : List VolumeMount := []
  liveness : Option Probe := none
  readiness : Option Probe := none
deriving DecidableEq

def Container.toJson (c : Container) : Json :=
  .ofFields [("command", Json.list? (c.command.map .str)),
    ("env", Json.list? (c.env.map EnvVar.toJson)),
    ("image", some (.str c.image)),
    ("livenessProbe", c.liveness.map Probe.toJson),
    ("name", some (.str c.name)),
    ("ports", Json.list? (c.ports.map ContainerPort.toJson)),
    ("readinessProbe", c.readiness.map Probe.toJson),
    ("resources", c.resources.map ResourceBounds.toJson),
    ("volumeMounts", Json.list? (c.mounts.map VolumeMount.toJson))]

/-! ## Pod templates -/

/-- A volume that a volume claim provides. -/
structure Volume where
  name : String
  claim : String
deriving DecidableEq

def Volume.toJson (v : Volume) : Json :=
  .obj [("name", .str v.name),
    ("persistentVolumeClaim", .obj [("claimName", .str v.claim)])]

/-- A preference to spread the selected pods over a topology; it never blocks scheduling. -/
structure Spread where
  topologyKey : String
  selected : Labels
deriving DecidableEq

def Spread.toJson (s : Spread) : Json :=
  .obj [("labelSelector", selector s.selected),
    ("maxSkew", .nat 1),
    ("topologyKey", .str s.topologyKey),
    ("whenUnsatisfiable", .str "ScheduleAnyway")]

structure PodTemplate where
  labels : Option Labels := none
  containers : List Container
  volumes : List Volume
  spread : List Spread := []
  restartPolicy : Option String := none
deriving DecidableEq

/-- Pods run as the web server's user, never as root. -/
def podSecurity : Json :=
  .obj [("fsGroup", .nat 33), ("runAsNonRoot", .bool true), ("runAsUser", .nat 33)]

def PodTemplate.toJson (p : PodTemplate) : Json :=
  .ofFields [("metadata", p.labels.map fun l => .obj [("labels", .ofLabels l)]),
    ("spec", some (.ofFields [
      ("containers", some (.arr (p.containers.map Container.toJson))),
      ("restartPolicy", p.restartPolicy.map .str),
      ("securityContext", some podSecurity),
      ("topologySpreadConstraints", Json.list? (p.spread.map Spread.toJson)),
      ("volumes", some (.arr (p.volumes.map Volume.toJson)))]))]

end MoodleTenancy
