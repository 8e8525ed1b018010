import MoodleTenancy.Fault
import MoodleTenancy.Numeric.Reading
import MoodleTenancy.Text.CommaList

/-!
# Settings

The operator is configured by environment variables, each with a default.

* `Settings`: the configuration; `({} : Settings)` has all defaults.
* `Environment.value`: a variable or its default.
* `Settings.ofEnvironment`: the settings of an environment, or the first one that cannot be read.
-/

namespace MoodleTenancy
set_option autoImplicit false

open Numeric

/-- The number with an integer value, for defaults. -/
def seconds (n : Nat) : Binary64 := .finite false (n * Binary64.one)

structure Settings where
  kubeconfig : String := ""
  inCluster : Bool := false
  finalizer : String := "moodle.bsu.by/finalizer"
  namespacePrefix : String := "tenant-"
  defaultStorageClass : String := "csi-cephfs-sc"
  /-- Storage classes whose volumes one node at a time can mount. -/
  singleNodeStorageClasses : List String := ["local-path", "hostpath"]
  memcachedImage : String := "memcached:alpine"
  ingressClass : String := "nginx"
  ingressNamespace : String := "ingress-nginx"
  databaseNamespaceLabel : String := "moodle.bsu.by/db"
  databasePort : Int := 5432
  maxParallelReconciles : Int := 3
  requeueDelay : Binary64 := seconds 5
  retryBackoffBase : Binary64 := seconds 5
  retryBackoffMax : Binary64 := seconds 300
  resyncInterval : Binary64 := seconds 300
  postingEnabled : Bool := true
deriving DecidableEq

/-- Environment variables with their values. -/
abbrev Environment := List (String × String)

namespace Environment

def value (env : Environment) (name default : String) : String :=
  (env.lookup name).getD default

/-- A flag is on for the word true in any case. No character beyond ASCII has its lower case in that
word. -/
def flag (env : Environment) (name default : String) : Bool :=
  String.ofList ((env.value name default).toList.map Char.toLower) == "true"

def integer (env : Environment) (name default : String) : Except Fault Int :=
  let text := env.value name default
  match Numeric.integer text with
  | .integer n => .ok n
  | .oversized digits => .error (.oversizedInteger digits)
  | .unreadable => .error (.unreadableInteger text)

def number (env : Environment) (name default : String) : Except Fault Binary64 :=
  let text := env.value name default
  match binary64? text with
  | some x => .ok x
  | none => .error (.unreadableNumber text)

def list (env : Environment) (name default : String) : List String :=
  Text.items (env.value name default)

end Environment

/-- The settings of an environment; of several that cannot be read the first is reported. -/
def Settings.ofEnvironment (env : Environment) : Except Fault Settings := do
  let databasePort ← env.integer "DATABASE_PORT" "5432"
  let maxParallelReconciles ← env.integer "MAX_PARALLEL_RECONCILES" "3"
  let requeueDelay ← env.number "REQUEUE_DELAY" "5"
  let retryBackoffBase ← env.number "RETRY_BACKOFF_BASE" "5"
  let retryBackoffMax ← env.number "RETRY_BACKOFF_MAX" "300"
  let resyncInterval ← env.number "RESYNC_INTERVAL" "300"
  return {
    kubeconfig := env.value "KUBECONFIG" ""
    inCluster := env.flag "IN_CLUSTER" "false"
    namespacePrefix := env.value "NAMESPACE_PREFIX" "tenant-"
    defaultStorageClass := env.value "DEFAULT_STORAGE_CLASS" "csi-cephfs-sc"
    singleNodeStorageClasses := env.list "SINGLE_NODE_STORAGE_CLASSES" "local-path,hostpath"
    memcachedImage := env.value "MEMCACHED_IMAGE" "memcached:alpine"
    ingressClass := env.value "INGRESS_CLASS" "nginx"
    ingressNamespace := env.value "INGRESS_NAMESPACE" "ingress-nginx"
    databaseNamespaceLabel := env.value "DATABASE_NAMESPACE_LABEL" "moodle.bsu.by/db"
    databasePort := databasePort
    maxParallelReconciles := maxParallelReconciles
    requeueDelay := requeueDelay
    retryBackoffBase := retryBackoffBase
    retryBackoffMax := retryBackoffMax
    resyncInterval := resyncInterval
    postingEnabled := env.flag "POSTING_ENABLED" "true" }

end MoodleTenancy
