/-!
# Tenant declarations

A declaration is what an administrator asks for: an object's metadata and the desired state of one
tenant. Zero and the empty text mean that an optional setting is not given.

* `Metadata`, `Resources`, `Autoscaling`, `Storage`, `Database`, `Php`, `Memcached`, `Spec`: its
  parts.
* `Declaration`: the whole.
* `Autoscaling.initialReplicas`, `Php.executionSeconds`, `Memcached.megabytes` and their kin: the
  values in force when a setting is not given.
-/

namespace MoodleTenancy
set_option autoImplicit false

structure Metadata where
  name : String
  uid : Option String := none
  resourceVersion : Option String := none
  generation : Option Int := none
  finalizers : List String := []
  deletionTimestamp : Option String := none
deriving DecidableEq

/-- Whether the object is marked for deletion: a deletion time is set. -/
def Metadata.isMarked (m : Metadata) : Bool :=
  match m.deletionTimestamp with
  | some t => t != ""
  | none => false

/-- An amount of a resource, as text with a unit or as a bare number. -/
inductive Quantity where
  | text (s : String)
  | whole (n : Int)
deriving DecidableEq

/-- The amount as text. A bare number was read, so it is short enough to be written. -/
def Quantity.toString : Quantity → String
  | text s => s
  | whole n => ToString.toString n

structure Resources where
  requests : List (String × Quantity) := []
  limits : List (String × Quantity) := []
deriving DecidableEq

/-! ## Autoscaling -/

structure Autoscaling where
  enabled : Bool := false
  minReplicas : Option Int := none
  maxReplicas : Int := 10
  targetCpu : Option Int := none
deriving DecidableEq

namespace Autoscaling

/-- The fewest replicas under autoscaling; two when not given. -/
def lowest (a : Autoscaling) : Int := a.minReplicas.getD 2

/-- The processor load, in percent, that autoscaling aims at; 75 when not given. -/
def load (a : Autoscaling) : Int := a.targetCpu.getD 75

/-- The replicas to start with: one, unless the autoscaler owns the number. -/
def initialReplicas (a : Autoscaling) : Int := if a.enabled then a.lowest else 1

/-- The bounds leave room for at least one number of replicas, or are not in force. -/
def isConsistent (a : Autoscaling) : Bool := !a.enabled || a.lowest ≤ a.maxReplicas

end Autoscaling

/-! ## The other parts -/

structure Storage where
  size : String
  storageClass : String := ""
deriving DecidableEq

/-- The database, and the name of the secret that holds the access to it. -/
structure Database where
  host : String
  adminSecret : String
  name : String
  user : String
  password : String
deriving DecidableEq

structure Php where
  maxExecutionTime : Int := 0
  memoryLimit : String := ""
deriving DecidableEq

def Php.executionSeconds (p : Php) : Int :=
  if p.maxExecutionTime = 0 then 60 else p.maxExecutionTime

def Php.memory (p : Php) : String :=
  if p.memoryLimit = "" then "512M" else p.memoryLimit

structure Memcached where
  memoryMb : Int := 0
deriving DecidableEq

def Memcached.megabytes (m : Memcached) : Int :=
  if m.memoryMb = 0 then 128 else m.memoryMb

structure Spec where
  hostname : String
  image : String
  resources : Resources := {}
  autoscaling : Autoscaling := {}
  storage : Storage
  database : Database
  php : Php := {}
  memcached : Memcached := {}
deriving DecidableEq

/-! ## The whole -/

namespace Declaration

/-- The resource that declarations are objects of. -/
def group : String := "moodle.bsu.by"

def version : String := "v1alpha1"

def plural : String := "moodletenants"

def kindName : String := "MoodleTenant"

end Declaration

structure Declaration where
  apiVersion : String := Declaration.group ++ "/" ++ Declaration.version
  kind : String := Declaration.kindName
  metadata : Metadata
  spec : Spec
deriving DecidableEq

namespace Declaration

/-- The name by which everything about the tenant is found. -/
def identifier (t : Declaration) : String := t.metadata.name

def url (t : Declaration) : String := "https://" ++ t.spec.hostname

end Declaration
end MoodleTenancy
