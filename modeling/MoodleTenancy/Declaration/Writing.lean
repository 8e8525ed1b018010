import MoodleTenancy.Declaration.Basic
import MoodleTenancy.Json.Basic

/-!
# Writing declarations

Each part is written as an object under its wire names, with every field, in ascending
order: what is not given is written as its default.

* `Metadata.toJson`, `Spec.toJson` and the writers of its parts.
* `Declaration.toJson`: the wire form of a declaration.
-/

namespace MoodleTenancy
set_option autoImplicit false

def Json.ofInt? (n : Option Int) : Json := Json.ofOption (n.map Json.int)

def Json.ofText? (s : Option String) : Json := Json.ofOption (s.map Json.str)

def Metadata.toJson (m : Metadata) : Json :=
  .obj [("deletionTimestamp", .ofText? m.deletionTimestamp),
    ("finalizers", .strings m.finalizers),
    ("generation", .ofInt? m.generation),
    ("name", .str m.name),
    ("resourceVersion", .ofText? m.resourceVersion),
    ("uid", .ofText? m.uid)]

def Quantity.toJson : Quantity → Json
  | .text s => .str s
  | .whole n => .int n

def Resources.toJson (r : Resources) : Json :=
  .obj [("limits", .obj (r.limits.map fun q => (q.1, q.2.toJson))),
    ("requests", .obj (r.requests.map fun q => (q.1, q.2.toJson)))]

def Autoscaling.toJson (a : Autoscaling) : Json :=
  .obj [("enabled", .bool a.enabled),
    ("maxReplicas", .int a.maxReplicas),
    ("minReplicas", .ofInt? a.minReplicas),
    ("targetCPU", .ofInt? a.targetCpu)]

def Storage.toJson (s : Storage) : Json :=
  .obj [("size", .str s.size), ("storageClass", .str s.storageClass)]

def Database.toJson (d : Database) : Json :=
  .obj [("adminSecret", .str d.adminSecret),
    ("host", .str d.host),
    ("name", .str d.name),
    ("password", .str d.password),
    ("user", .str d.user)]

def Php.toJson (p : Php) : Json :=
  .obj [("maxExecutionTime", .int p.maxExecutionTime), ("memoryLimit", .str p.memoryLimit)]

def Memcached.toJson (m : Memcached) : Json :=
  .obj [("memoryMB", .int m.memoryMb)]

def Spec.toJson (s : Spec) : Json :=
  .obj [("databaseRef", s.database.toJson),
    ("hostname", .str s.hostname),
    ("hpa", s.autoscaling.toJson),
    ("image", .str s.image),
    ("memcached", s.memcached.toJson),
    ("phpSettings", s.php.toJson),
    ("resources", s.resources.toJson),
    ("storage", s.storage.toJson)]

def Declaration.toJson (t : Declaration) : Json :=
  .obj [("apiVersion", .str t.apiVersion),
    ("kind", .str t.kind),
    ("metadata", t.metadata.toJson),
    ("spec", t.spec.toJson)]

end MoodleTenancy
