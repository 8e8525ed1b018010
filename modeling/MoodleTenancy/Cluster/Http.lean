import MoodleTenancy.Cluster.ApiServer
import MoodleTenancy.Declaration.Basic
import MoodleTenancy.Schema.Response
import MoodleTenancy.Text.Percent

/-!
# Clusters behind HTTP

Objects are addressed by path. The path of a collection and the name of an object in it make up the
path of the object, each segment percent-encoded.

* `Request`: a method, a path and perhaps a body.
* `Transport τ`: what answers requests.
* `collectionPath`, `objectPath`, `tenantPath`: addresses.
* `Http.admissible`: checks the arguments of a call. A call with an unfit argument sends nothing.
* `Http.answer`: the response to a request, which has to be of the shape of its kind.
* `ApiServer.overHttp`: the calls of a cluster as requests. Status 404 is an answer to reading and
  deleting; every other fault is passed on.
-/

namespace MoodleTenancy
set_option autoImplicit false

/-! ## Requests -/

inductive Method where
  | get
  | post
  | put
  | patch
  | delete
deriving DecidableEq

def Method.name : Method → String
  | get => "GET"
  | post => "POST"
  | put => "PUT"
  | patch => "PATCH"
  | delete => "DELETE"

structure Request where
  method : Method
  path : String
  body : Option Json := none

/-- What a body is, where it has to be said. -/
def Request.contentType? (r : Request) : Option String :=
  match r.method with
  | .patch => some "application/merge-patch+json"
  | _ => none

class Transport (τ : Type) where
  /-- The response to a request. -/
  send : Request → Task τ Json

/-! ## Paths -/

def path (segments : List String) : String :=
  String.join (segments.map fun s => "/" ++ Text.percentEncode s)

/-- The segments of an API group's root; the core group has a root of its own. -/
def Kind.root (k : Kind) : List String :=
  if k.group = "" then ["api", k.version] else ["apis", k.group, k.version]

/-- The segments of a collection; namespaces are not themselves in one. -/
def collectionSegments (k : Kind) (ns : String) : List String :=
  if k = .namespaceKind then k.root ++ [k.plural]
  else k.root ++ ["namespaces", ns, k.plural]

def collectionPath (k : Kind) (ns : String) : String := path (collectionSegments k ns)

def objectPath (k : Kind) (ns name : String) : String := path (collectionSegments k ns ++ [name])

def tenantSegments : List String :=
  ["apis", Declaration.group, Declaration.version, Declaration.plural]

def tenantsPath : String := path tenantSegments

def tenantPath (name : String) : String := path (tenantSegments ++ [name])

def tenantStatusPath (name : String) : String := path (tenantSegments ++ [name, "status"])

/-! ## Arguments of calls -/

/-- The part of the API that a kind belongs to. -/
def Kind.apiName (k : Kind) : String :=
  let group := match k.group with
    | "" => "Core"
    | "apps" => "Apps"
    | "networking.k8s.io" => "Networking"
    | "autoscaling" => "Autoscaling"
    | "batch" => "Batch"
    | _ => "Policy"
  group ++ k.version.toUpper ++ "Api"

def Kind.callTitle (k : Kind) (verb : String) : String :=
  k.apiName ++ "." ++ verb ++
    (if k = .namespaceKind then "_namespace" else "_namespaced_" ++ k.callName)

def tenantCallTitle (call : String) : String := "CustomObjectsApi." ++ call

/-- What a report shows of an object. One without a model is shown by its attributes. -/
def Manifest.subject (m : Manifest) : Validation.Subject :=
  match m.object.model? with
  | some name => .object m.document.literal name
  | none =>
    .object ("namespace(kind=" ++ Text.quote m.key.kind.name ++ ", metadata=namespace(name=" ++
      Text.quote m.key.name ++ ", namespace=" ++ m.key.namespaceName.elim "None" Text.quote ++
      "))") "SimpleNamespace"

namespace Http

open Validation

/-- The issue of a namespace that has to be given and is not. -/
def namespaceIssues (k : Kind) (ns : Option String) : List Issue :=
  if k ≠ .namespaceKind ∧ ns.isNone then [⟨.notText, [.key "namespace"], .json .null⟩] else []

/-- The issue of an object that is not of the kind. -/
def bodyIssues (k : Kind) (m : Manifest) : List Issue :=
  if m.object.model? = some k.modelName then []
  else [⟨.notModel k.modelName, [.key "body"], m.subject⟩]

/-- Fails with a report on a call if there are issues with its arguments. -/
def admissible (title : String) (issues : List Issue) : Except Fault Unit :=
  (Report.ofIssues title issues).mapError .invalid

/-- The name of a tenant as an argument of a call. -/
def tenantName (call : String) (name : Json) : Except Fault String :=
  match name with
  | .str s => .ok s
  | j => .error (.invalid ⟨tenantCallTitle call, [⟨.notText, [.index 4], .json j⟩]⟩)

@[simp] theorem tenantName_str (call s : String) : tenantName call (.str s) = .ok s := rfl

/-! ## Calls as requests -/

variable {τ : Type} [Transport τ]

/-- The response, or `absent` if the server has no such object. -/
def unlessNotFound {α : Type} (absent : α) (t : Task τ α) : Task τ α :=
  t.rescue fun fault => if fault.isNotFound then pure absent else Task.fail fault

/-- The document in a response, which has to be of a shape. A null response holds none. -/
def received (s : Shape) (response : Json) : Task τ (Option Json) := do
  match response.toOption with
  | none => return none
  | some j =>
    Task.ofExcept (s.receive j)
    return some j

/-- The document in the response to a request, which has to be of a shape. -/
def answer (s : Shape) (r : Request) : Task τ (Option Json) := do
  received s (← Transport.send r)

def read (k : Kind) (name : String) (ns : Option String) : Task τ (Option Part) := do
  Task.ofExcept (admissible (k.callTitle "read") (namespaceIssues k ns))
  let found ← unlessNotFound none
    (answer k.shape ⟨.get, objectPath k (ns.getD "") name, none⟩)
  return found.map Part.ofJson

def create (k : Kind) (m : Manifest) : Task τ Json := do
  let ns := m.key.namespaceName
  Task.ofExcept
    (admissible (k.callTitle "create") (namespaceIssues k ns ++ bodyIssues k m))
  return .ofOption
    (← answer k.shape ⟨.post, collectionPath k (ns.getD ""), some m.document⟩)

def delete (k : Kind) (name : String) (ns : Option String) : Task τ Bool := do
  Task.ofExcept (admissible (k.callTitle "delete") (namespaceIssues k ns))
  unlessNotFound false do
    let response ← Transport.send ⟨.delete, objectPath k (ns.getD "") name, none⟩
    if k.returnsDeleted then
      let _ ← received k.shape response
    return true

def readTenant (name : Json) : Task τ (Option Json) := do
  let name ← Task.ofExcept (tenantName "get_cluster_custom_object" name)
  unlessNotFound none do
    return (← Transport.send ⟨.get, tenantPath name, none⟩).toOption

def namesIn (response : Json) : Except Fault (List Json) := do
  let items ← response.field "items"
  let items := if (response.get? "items").isSome then items else .arr []
  (← items.itemsOf).mapM fun item => (item.entry "metadata").bind (Json.entry "name")

def listTenants : Task τ (List Json) := do
  Task.ofExcept (namesIn (← Transport.send ⟨.get, tenantsPath, none⟩))

def replaceTenant (body : Json) : Task τ Json := do
  let name ← Task.ofExcept ((body.entry "metadata").bind (Json.entry "name"))
  let name ← Task.ofExcept (tenantName "replace_cluster_custom_object" name)
  Transport.send ⟨.put, tenantPath name, some body⟩

def patchTenantStatus (name patch : Json) : Task τ Unit := do
  let name ← Task.ofExcept (tenantName "patch_cluster_custom_object_status" name)
  let _ ← Transport.send ⟨.patch, tenantStatusPath name, some (.obj [("status", patch)])⟩

end Http

/-- The calls of a cluster as requests. -/
@[reducible] def ApiServer.overHttp {τ : Type} [Transport τ] : ApiServer τ where
  read := Http.read
  create := Http.create
  delete := Http.delete
  readTenant := Http.readTenant
  listTenants := Http.listTenants
  replaceTenant := Http.replaceTenant
  patchTenantStatus := Http.patchTenantStatus

end MoodleTenancy
