import MoodleTenancy.Declaration.Basic
import MoodleTenancy.Fault
import MoodleTenancy.Validation.Readers

/-!
# Reading declarations

Each part is read from an object, field by field in a fixed order, and all issues are reported.
Fields that no part has are passed over.

* `metadata`, `spec` and the readers of their parts.
* `declaration`: the reader of a whole declaration.
* `Metadata.read`, `Declaration.read`: the same with a report under the model's name.
* `Metadata.parse`, `Declaration.parse`: the same with the report as a fault.
-/

namespace MoodleTenancy.Validation
set_option autoImplicit false

/-! ## Metadata -/

def metadataFields : FieldReader Metadata := fun o =>
  ((((((Field.required ⟨"name", "name"⟩ nonEmptyText o).map Metadata.mk).and
    (Field.optional ⟨"uid", "uid"⟩ none (nullable text) o)).and
    (Field.optional ⟨"resourceVersion", "resource_version"⟩ none (nullable text) o)).and
    (Field.optional ⟨"generation", "generation"⟩ none (nullable integer) o)).and
    (Field.optional ⟨"finalizers", "finalizers"⟩ [] (listOf text) o)).and
    (Field.optional ⟨"deletionTimestamp", "deletion_timestamp"⟩ none (nullable text) o)

def metadata : Reader Metadata := model "ObjectMeta" metadataFields

/-! ## Resources -/

/-- Text stays as it is; anything else has to be an integer, and both complaints are kept. -/
def quantity : Reader Quantity
  | .str s => .accepted (.text s)
  | j =>
    match integer j with
    | .accepted n => .accepted (.whole n)
    | .refused is =>
      .refused (⟨.notText, [.key "str"], .json j⟩ :: is.map (Issue.within (.key "int")))

def resources : Reader Resources :=
  model "ResourceRequirementsSpec" fun o =>
    ((Field.optional ⟨"requests", "requests"⟩ [] (mapOf quantity) o).map Resources.mk).and
      (Field.optional ⟨"limits", "limits"⟩ [] (mapOf quantity) o)

/-! ## Autoscaling -/

def autoscalingFields : FieldReader Autoscaling := fun o =>
  ((((Field.optional ⟨"enabled", "enabled"⟩ false flag o).map Autoscaling.mk).and
    (Field.optional ⟨"minReplicas", "min_replicas"⟩ none (nullable (atLeast 1)) o)).and
    (Field.optional ⟨"maxReplicas", "max_replicas"⟩ 10 (atLeast 1) o)).and
    (Field.optional ⟨"targetCPU", "target_cpu"⟩ none (nullable (between 1 100)) o)

/-- Why bounds that leave no room are refused. Each was read, or is in force where none is given, so
both are short enough to be written. -/
def boundsComplaint (a : Autoscaling) : Complaint :=
  .inconsistent ("hpa.maxReplicas (" ++ toString a.maxReplicas ++ ") must be >= minReplicas (" ++
    toString a.lowest ++ ")")

/-- The bounds are compared once all fields are fine. -/
def autoscaling : Reader Autoscaling := fun j =>
  (model "AutoscalingSpec" autoscalingFields j).andThen fun a =>
    if a.isConsistent then .accepted a else refuse (boundsComplaint a) j

/-! ## The other parts -/

/-- A size: text that is not empty, or an integer or a truth value taken as its text. The integers
are those that JSON text can give, and all of these can be written. -/
def size : Reader String
  | .int n => .accepted (toString n)
  | .bool b => .accepted (if b then "True" else "False")
  | j => nonEmptyText j

def storage : Reader Storage :=
  model "StorageSpec" fun o =>
    ((Field.required ⟨"size", "size"⟩ size o).map Storage.mk).and
      (Field.optional ⟨"storageClass", "storage_class"⟩ "" text o)

def database : Reader Database :=
  model "DatabaseRefSpec" fun o =>
    (((((Field.required ⟨"host", "host"⟩ nonEmptyText o).map Database.mk).and
      (Field.required ⟨"adminSecret", "admin_secret"⟩ nonEmptyText o)).and
      (Field.required ⟨"name", "name"⟩ nonEmptyText o)).and
      (Field.required ⟨"user", "user"⟩ nonEmptyText o)).and
      (Field.required ⟨"password", "password"⟩ nonEmptyText o)

def php : Reader Php :=
  model "PHPSettingsSpec" fun o =>
    ((Field.optional ⟨"maxExecutionTime", "max_execution_time"⟩ 0 (atLeast 0) o).map Php.mk).and
      (Field.optional ⟨"memoryLimit", "memory_limit"⟩ "" text o)

def memcached : Reader Memcached :=
  model "MemcachedSpec" fun o =>
    (Field.optional ⟨"memoryMB", "memory_mb"⟩ 0 (atLeast 0) o).map Memcached.mk

def specFields : FieldReader Spec := fun o =>
  ((((((((Field.required ⟨"hostname", "hostname"⟩ nonEmptyText o).map Spec.mk).and
    (Field.required ⟨"image", "image"⟩ nonEmptyText o)).and
    (Field.optional ⟨"resources", "resources"⟩ {} resources o)).and
    (Field.optional ⟨"hpa", "autoscaling"⟩ {} autoscaling o)).and
    (Field.required ⟨"storage", "storage"⟩ storage o)).and
    (Field.required ⟨"databaseRef", "database"⟩ database o)).and
    (Field.optional ⟨"phpSettings", "php"⟩ {} php o)).and
    (Field.optional ⟨"memcached", "memcached"⟩ {} memcached o)

def spec : Reader Spec := model "TenantSpec" specFields

/-! ## The whole -/

def declarationFields : FieldReader Declaration := fun o =>
  ((((Field.optional ⟨"apiVersion", "api_version"⟩
      (Declaration.group ++ "/" ++ Declaration.version) text o).map Declaration.mk).and
    (Field.optional ⟨"kind", "kind"⟩ Declaration.kindName text o)).and
    (Field.required ⟨"metadata", "metadata"⟩ metadata o)).and
    (Field.required ⟨"spec", "spec"⟩ spec o)

def declaration : Reader Declaration := model "TenantDeclaration" declarationFields

end MoodleTenancy.Validation

namespace MoodleTenancy
set_option autoImplicit false

def Metadata.read (j : Json) : Except Validation.Report Metadata :=
  (Validation.metadata j).report "ObjectMeta"

def Declaration.read (j : Json) : Except Validation.Report Declaration :=
  (Validation.declaration j).report "TenantDeclaration"

def Metadata.parse (j : Json) : Except Fault Metadata :=
  (Metadata.read j).mapError Fault.invalid

def Declaration.parse (j : Json) : Except Fault Declaration :=
  (Declaration.read j).mapError Fault.invalid

end MoodleTenancy
