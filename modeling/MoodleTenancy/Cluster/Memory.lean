import MoodleTenancy.Cluster.ApiServer
import MoodleTenancy.Cluster.Table
import MoodleTenancy.Cluster.TenantKey
import MoodleTenancy.Schema.Editing

/-!
# Clusters in memory

A cluster that keeps its objects and tenants in tables. Every stored tenant gets a version, and a
tenant is replaced only by a body of the same version. A tenant marked for deletion goes away when
it has no finalizers left, and a namespace takes what is in it along.

* `MemoryCluster`: the state, with the calls made so far and the failures that calls are to meet.
* `Verb`, `Call`: what is recorded of a call.
* `MemoryCluster.read` and its kin: the calls, bundled as an `ApiServer`.
* `MemoryCluster.enrol`, `retire`, `editTenant`, `editObject`: what happens to a cluster
  from outside.
-/

namespace MoodleTenancy
set_option autoImplicit false

inductive Verb where
  | read
  | create
  | delete
  | readTenant
  | replaceTenant
  | patchTenantStatus
deriving DecidableEq

namespace Verb

def name : Verb → String
  | read => "read"
  | create => "create"
  | delete => "delete"
  | readTenant => "read_tenant"
  | replaceTenant => "replace_tenant"
  | patchTenantStatus => "patch_tenant_status"

def all : List Verb := [read, create, delete, readTenant, replaceTenant, patchTenantStatus]

def ofName? (s : String) : Option Verb := all.find? fun v => v.name = s

end Verb

/-- What is recorded of a call: calls about tenants have no kind. -/
structure Call where
  verb : Verb
  kind : Option Kind
  name : Json

/-- A stored tenant, under the name by which it came in first. -/
structure StoredTenant where
  name : Json
  body : Json

structure MemoryCluster where
  objects : Table ObjectKey Manifest := []
  tenants : Table TenantKey StoredTenant := []
  failures : Table (Verb × Option Kind) Fault := []
  calls : List Call := []
  patches : List (Json × Json) := []
  nextVersion : Nat := 1
  nextUid : Nat := 1

namespace MemoryCluster

/-! ## Parts of calls -/

def record (verb : Verb) (kind : Option Kind) (name : Json) : Task MemoryCluster Unit :=
  Task.update fun c => { c with calls := c.calls ++ [⟨verb, kind, name⟩] }

/-- Fails if a failure is in store for calls of this verb and kind. -/
def meetFailure (verb : Verb) (kind : Option Kind) : Task MemoryCluster Unit := do
  match (← Task.state).failures.get? (verb, kind) with
  | some fault => Task.fail fault
  | none => pure ()

def newVersion : Task MemoryCluster Json := do
  let c ← Task.state
  Task.update fun c => { c with nextVersion := c.nextVersion + 1 }
  return .str (toString c.nextVersion)

def tenant? (name : Json) : Task MemoryCluster (Option Json) := do
  let key ← Task.ofExcept (TenantKey.of name)
  return ((← Task.state).tenants.get? key).map StoredTenant.body

def storedTenant (name : Json) : Task MemoryCluster Json := do
  match ← tenant? name with
  | some body => return body
  | none => Task.fail (.missingKey name)

/-- Stores a tenant; one that is there keeps its name. -/
def storeTenant (name body : Json) : Task MemoryCluster Unit := do
  let key ← Task.ofExcept (TenantKey.of name)
  let c ← Task.state
  let name := ((c.tenants.get? key).map StoredTenant.name).getD name
  Task.update fun c => { c with tenants := c.tenants.insert key ⟨name, body⟩ }

def dropTenant (name : Json) : Task MemoryCluster Unit := do
  let key ← Task.ofExcept (TenantKey.of name)
  Task.update fun c => { c with tenants := c.tenants.erase key }

/-! ## Calls about objects -/

def read (kind : Kind) (name : String) (namespaceName : Option String) :
    Task MemoryCluster (Option Part) := do
  record .read (some kind) (.str name)
  meetFailure .read (some kind)
  return ((← Task.state).objects.get? ⟨kind, namespaceName, name⟩).map Manifest.object

def create (kind : Kind) (m : Manifest) : Task MemoryCluster Json := do
  record .create (some kind) (.str m.key.name)
  meetFailure .create (some kind)
  let key : ObjectKey := { m.key with kind := kind }
  match (← Task.state).objects.get? key with
  | some _ => Task.fail .alreadyExists
  | none =>
    Task.update fun c => { c with objects := c.objects.insert key m }
    return m.document

/-- The objects without the one that has the key, and without those in it if it is a namespace. -/
def without (key : ObjectKey) (objects : Table ObjectKey Manifest) :
    Table ObjectKey Manifest :=
  if key.kind = .namespaceKind then
    (objects.erase key).eraseWhere fun k => k.namespaceName = some key.name
  else objects.erase key

def delete (kind : Kind) (name : String) (namespaceName : Option String) :
    Task MemoryCluster Bool := do
  record .delete (some kind) (.str name)
  meetFailure .delete (some kind)
  let key : ObjectKey := ⟨kind, namespaceName, name⟩
  match (← Task.state).objects.get? key with
  | none => return false
  | some _ =>
    Task.update fun c => { c with objects := without key c.objects }
    return true

/-! ## Calls about tenants -/

def readTenant (name : Json) : Task MemoryCluster (Option Json) := do
  record .readTenant none name
  meetFailure .readTenant none
  tenant? name

def listTenants : Task MemoryCluster (List Json) := do
  Task.ofExcept (TenantKey.sorted ((← Task.state).tenants.map fun t => t.2.name))

/-- Whether nothing keeps a tenant: it is marked for deletion and has no finalizers. -/
def isReleased (metadata : Json) : Bool :=
  (Json.ofOption (metadata.get? "deletionTimestamp")).isTruthy &&
    !(Json.ofOption (metadata.get? "finalizers")).isTruthy

def replaceTenant (body : Json) : Task MemoryCluster Json := do
  let metadata ← Task.ofExcept (body.entry "metadata")
  let name ← Task.ofExcept (metadata.entry "name")
  record .replaceTenant none name
  meetFailure .replaceTenant none
  match ← tenant? name with
  | none => Task.fail .notFound
  | some current =>
    let seen ← Task.ofExcept (metadata.field "resourceVersion")
    let latest ← Task.ofExcept ((current.entry "metadata").bind (Json.entry "resourceVersion"))
    if seen.same latest then
      let metadata := metadata.set "resourceVersion" (← newVersion)
      let stored := body.set "metadata" metadata
      if isReleased metadata then dropTenant name else storeTenant name stored
      return stored
    else Task.fail .conflict

/-- Lays a patch over a tenant's status, as far as that goes; a status that is absent is made. -/
def patchTenantStatus (name patch : Json) : Task MemoryCluster Unit := do
  Task.update fun c => { c with patches := c.patches ++ [(name, patch)] }
  meetFailure .patchTenantStatus none
  match ← tenant? name with
  | none => Task.fail .notFound
  | some body =>
    match (body.get? "status").getD (.obj []) with
    | .obj fields =>
      let (fields, result) := Fields.absorb patch fields
      storeTenant name (body.set "status" (.obj fields))
      Task.ofExcept result
    | status => Task.fail (.lacks status.kindName "update")

instance : ApiServer MemoryCluster where
  read := read
  create := create
  delete := delete
  readTenant := readTenant
  listTenants := listTenants
  replaceTenant := replaceTenant
  patchTenantStatus := patchTenantStatus

/-! ## What happens from outside -/

/-- The fields of an object, to which a field is about to be added. -/
def fieldsToFill : Json → Except Fault Fields
  | .obj fields => .ok fields
  | j => .error (.lacks j.kindName "setdefault")

/-- The field of an object, set to a default first if it is absent. -/
def fill (key : String) (default : Json) (fields : Fields) : Fields :=
  match Fields.get? key fields with
  | some _ => fields
  | none => Fields.set key default fields

/-- Stores a new tenant with a uid, a generation and a version. The uid and the version are used up
even if the body turns out to have no name. -/
def enrol (body : Json) : Task MemoryCluster Json := do
  let fields := fill "metadata" (.obj []) (← Task.ofExcept (fieldsToFill body))
  let metadata ← Task.ofExcept (fieldsToFill (.ofOption (Fields.get? "metadata" fields)))
  let uid := (← Task.state).nextUid
  Task.update fun c => { c with nextUid := c.nextUid + 1 }
  let metadata := fill "uid" (.str ("uid-" ++ toString uid)) metadata
  let metadata := fill "generation" (.int 1) metadata
  let metadata := Json.obj (Fields.set "resourceVersion" (← newVersion) metadata)
  let name ← Task.ofExcept (metadata.entry "name")
  let stored := Json.obj (Fields.set "metadata" metadata fields)
  storeTenant name stored
  return stored

/-- The time that deletions are requested at. -/
def deletionTime : String := "2026-10-18T12:00:00Z"

/-- Marks a tenant for deletion, or drops it if no finalizer keeps it. -/
def retire (name : Json) : Task MemoryCluster Unit := do
  let body ← storedTenant name
  let metadata ← Task.ofExcept (body.entry "metadata")
  if (← Task.ofExcept (metadata.field "finalizers")).isTruthy then
    let marked := metadata.set "deletionTimestamp" (.str deletionTime)
    let marked := marked.set "resourceVersion" (← newVersion)
    storeTenant name (body.set "metadata" marked)
  else dropTenant name

def editTenant (name : Json) (path : List Json) (change : Change) : Task MemoryCluster Unit := do
  let body ← storedTenant name
  storeTenant name (← Task.ofExcept (body.edited path change))

def editObject (key : ObjectKey) (path : List Json) (change : Change) :
    Task MemoryCluster Unit := do
  match (← Task.state).objects.get? key with
  | none => Task.fail (.missingObject key)
  | some m =>
    let object ← Task.ofExcept (m.object.edited path change)
    Task.update fun c =>
      { c with objects := c.objects.insert key { m with object := object } }

/-- Makes calls of a verb and kind fail from now on. -/
def injectFailure (verb : Verb) (kind : Option Kind) (fault : Fault) : Task MemoryCluster Unit :=
  Task.update fun c => { c with failures := c.failures.insert (verb, kind) fault }

def clearFailures : Task MemoryCluster Unit :=
  Task.update fun c => { c with failures := [] }

/-! ## What a cluster holds -/

def objectLine (k : ObjectKey) : String :=
  let ns := k.namespaceName.getD ""
  k.kind.name ++ " " ++ (if ns = "" then "-" else ns) ++ " " ++ k.name

/-- The objects in ascending order. -/
def inventory (c : MemoryCluster) : List String :=
  (c.objects.keys.map objectLine).mergeSort fun a b => a ≤ b

end MemoryCluster
end MoodleTenancy
