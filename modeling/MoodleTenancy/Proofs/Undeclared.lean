import MoodleTenancy.Proofs.Complaints
import MoodleTenancy.Proofs.Grammar

/-!
# What a body has beside its declaration

Bodies have keys that no part of a declaration knows, the status among them. They may as well be left
out, at any depth.

* `KeptField`, `Fields.keeping`, `Json.keeping`: the fields that come under one of some names.
* `Json.declared`: what a body has of a declaration.
* `Heeds`: a reader heeds no more than what is kept; one lemma for each reader of a part.
* `read_iff_declares`: bodies are read by the grammar of declarations.
-/

namespace MoodleTenancy
set_option autoImplicit false

open Validation

/-- A field to keep, and what to keep of its value. -/
abbrev KeptField := Field × (Json → Json)

/-- What to keep of a value that comes under a name. -/
def KeptField.find? (parts : List KeptField) (name : String) : Option (Json → Json) :=
  (parts.find? fun p => p.1.wire = name || p.1.alternative = name).map (·.2)

/-- The fields that are among some parts. -/
def Fields.keeping (parts : List KeptField) (fields : Fields) : Fields :=
  fields.filterMap fun f =>
    match f.1 with
    | .text name => (KeptField.find? parts name).map fun keep => (f.1, keep f.2)
    | _ => none

namespace Json

def keeping (parts : List KeptField) : Json → Json
  | obj fields => obj (Fields.keeping parts fields)
  | j => j

/-! ## What is declared -/

def declaredMetadata : Json → Json :=
  keeping [(⟨"name", "name"⟩, id), (⟨"uid", "uid"⟩, id),
    (⟨"resourceVersion", "resource_version"⟩, id), (⟨"generation", "generation"⟩, id),
    (⟨"finalizers", "finalizers"⟩, id), (⟨"deletionTimestamp", "deletion_timestamp"⟩, id)]

def declaredResources : Json → Json :=
  keeping [(⟨"requests", "requests"⟩, id), (⟨"limits", "limits"⟩, id)]

def declaredAutoscaling : Json → Json :=
  keeping [(⟨"enabled", "enabled"⟩, id), (⟨"minReplicas", "min_replicas"⟩, id),
    (⟨"maxReplicas", "max_replicas"⟩, id), (⟨"targetCPU", "target_cpu"⟩, id)]

def declaredStorage : Json → Json :=
  keeping [(⟨"size", "size"⟩, id), (⟨"storageClass", "storage_class"⟩, id)]

def declaredDatabase : Json → Json :=
  keeping [(⟨"host", "host"⟩, id), (⟨"adminSecret", "admin_secret"⟩, id), (⟨"name", "name"⟩, id),
    (⟨"user", "user"⟩, id), (⟨"password", "password"⟩, id)]

def declaredPhp : Json → Json :=
  keeping [(⟨"maxExecutionTime", "max_execution_time"⟩, id),
    (⟨"memoryLimit", "memory_limit"⟩, id)]

def declaredMemcached : Json → Json :=
  keeping [(⟨"memoryMB", "memory_mb"⟩, id)]

def declaredSpec : Json → Json :=
  keeping [(⟨"hostname", "hostname"⟩, id), (⟨"image", "image"⟩, id),
    (⟨"resources", "resources"⟩, declaredResources), (⟨"hpa", "autoscaling"⟩, declaredAutoscaling),
    (⟨"storage", "storage"⟩, declaredStorage), (⟨"databaseRef", "database"⟩, declaredDatabase),
    (⟨"phpSettings", "php"⟩, declaredPhp), (⟨"memcached", "memcached"⟩, declaredMemcached)]

/-- What a body has of a declaration: neither its other keys, nor those of the parts. -/
def declared : Json → Json :=
  keeping [(⟨"apiVersion", "api_version"⟩, id), (⟨"kind", "kind"⟩, id),
    (⟨"metadata", "metadata"⟩, declaredMetadata), (⟨"spec", "spec"⟩, declaredSpec)]

end Json

/-! ## Fields that are kept -/

theorem Fields.get?_keeping (parts : List KeptField) (name : String) (fields : Fields) :
    get? name (keeping parts fields) =
      (KeptField.find? parts name).bind fun keep => (get? name fields).map keep := by
  induction fields with
  | nil => cases KeptField.find? parts name <;> rfl
  | cons f rest ih =>
    obtain ⟨k, v⟩ := f
    rw [keeping] at ih ⊢
    by_cases hk : k.identity = (Key.text name).identity
    · have htext : k = .text name := by cases k <;> simp_all [Key.identity]
      subst htext
      cases hp : KeptField.find? parts name with
      | none => simpa [hp] using ih
      | some keep => simp [hp, get?_cons]
    · rw [get?_cons, if_neg hk, ← ih]
      cases k with
      | text s =>
        have hne : s ≠ name := fun h => hk (h ▸ rfl)
        cases hs : KeptField.find? parts s <;> simp [hs, get?_cons, hne]
      | _ => rfl

namespace Validation

variable {α : Type}

/-- A reader heeds no more of a value than what `keep` keeps of it. -/
def Heeds (r : Reader α) (keep : Json → Json) : Prop :=
  ∀ j a, r (keep j) = .accepted a ↔ r j = .accepted a

theorem heeds_id (r : Reader α) : Heeds r id := fun _ _ => Iff.rfl

namespace Field

variable {f : Field} {parts : List KeptField} {keep : Json → Json}

theorem value?_keeping (hw : KeptField.find? parts f.wire = some keep)
    (ha : KeptField.find? parts f.alternative = some keep) (fields : Fields) :
    f.value? (fields.keeping parts) = (f.value? fields).map keep := by
  have hgiven : ∀ fields, f.value? fields = fields.given f.wire f.alternative :=
    Grammar.value?_eq_given f.wire f.alternative
  rw [hgiven, hgiven, Fields.given, Fields.given, Fields.get?_keeping, Fields.get?_keeping, hw, ha]
  cases Fields.get? f.wire fields <;> rfl

theorem required_keeping (hw : KeptField.find? parts f.wire = some keep)
    (ha : KeptField.find? parts f.alternative = some keep) {r : Reader α} (hr : Heeds r keep)
    {fields : Fields} {a : α} :
    f.required r (fields.keeping parts) = .accepted a ↔ f.required r fields = .accepted a := by
  rw [required_eq_accepted, required_eq_accepted, value?_keeping hw ha]
  cases f.value? fields with
  | none => simp
  | some v => simpa using hr v a

theorem optional_keeping (hw : KeptField.find? parts f.wire = some keep)
    (ha : KeptField.find? parts f.alternative = some keep) {r : Reader α} (hr : Heeds r keep)
    {default a : α} {fields : Fields} :
    f.optional default r (fields.keeping parts) = .accepted a ↔
      f.optional default r fields = .accepted a := by
  rw [optional_eq_accepted, optional_eq_accepted, value?_keeping hw ha]
  cases f.value? fields with
  | none => simp
  | some v => simpa using hr v a

end Field

theorem exists_fields_keeping {parts : List KeptField} {P : Fields → Prop}
    (hP : ∀ fields : Fields, P (fields.keeping parts) ↔ P fields) (j : Json) :
    (∃ fields, j.keeping parts = .obj fields ∧ P fields) ↔ ∃ fields, j = .obj fields ∧ P fields := by
  cases j with
  | obj o =>
    simp only [Json.keeping, Json.obj.injEq]
    constructor
    · rintro ⟨_, rfl, h⟩
      exact ⟨o, rfl, (hP o).1 h⟩
    · rintro ⟨_, rfl, h⟩
      exact ⟨_, rfl, (hP o).2 h⟩
  | _ => exact Iff.rfl

/-! ## Readers of parts -/

theorem metadata_heeds : Heeds metadata Json.declaredMetadata := by
  intro j m
  rw [metadata, model_eq_accepted, model_eq_accepted]
  refine exists_fields_keeping (fun o => ?_) j
  rw [metadataFields_eq_accepted, metadataFields_eq_accepted,
    Field.required_keeping rfl rfl (heeds_id _), Field.optional_keeping rfl rfl (heeds_id _),
    Field.optional_keeping rfl rfl (heeds_id _), Field.optional_keeping rfl rfl (heeds_id _),
    Field.optional_keeping rfl rfl (heeds_id _), Field.optional_keeping rfl rfl (heeds_id _)]

theorem resources_heeds : Heeds resources Json.declaredResources := by
  intro j x
  rw [resources_eq_accepted, resources_eq_accepted]
  refine exists_fields_keeping (fun o => ?_) j
  rw [Field.optional_keeping rfl rfl (heeds_id _), Field.optional_keeping rfl rfl (heeds_id _)]

theorem autoscaling_heeds : Heeds autoscaling Json.declaredAutoscaling := by
  intro j x
  rw [autoscaling_eq_accepted, autoscaling_eq_accepted]
  refine exists_fields_keeping (fun o => ?_) j
  rw [autoscalingFields_eq_accepted, autoscalingFields_eq_accepted,
    Field.optional_keeping rfl rfl (heeds_id _), Field.optional_keeping rfl rfl (heeds_id _),
    Field.optional_keeping rfl rfl (heeds_id _), Field.optional_keeping rfl rfl (heeds_id _)]

theorem storage_heeds : Heeds storage Json.declaredStorage := by
  intro j x
  rw [storage_eq_accepted, storage_eq_accepted]
  refine exists_fields_keeping (fun o => ?_) j
  rw [Field.required_keeping rfl rfl (heeds_id _), Field.optional_keeping rfl rfl (heeds_id _)]

theorem database_heeds : Heeds database Json.declaredDatabase := by
  intro j x
  rw [database_eq_accepted, database_eq_accepted]
  refine exists_fields_keeping (fun o => ?_) j
  rw [Field.required_keeping rfl rfl (heeds_id _), Field.required_keeping rfl rfl (heeds_id _),
    Field.required_keeping rfl rfl (heeds_id _), Field.required_keeping rfl rfl (heeds_id _),
    Field.required_keeping rfl rfl (heeds_id _)]

theorem php_heeds : Heeds php Json.declaredPhp := by
  intro j x
  rw [php_eq_accepted, php_eq_accepted]
  refine exists_fields_keeping (fun o => ?_) j
  rw [Field.optional_keeping rfl rfl (heeds_id _), Field.optional_keeping rfl rfl (heeds_id _)]

theorem memcached_heeds : Heeds memcached Json.declaredMemcached := by
  intro j x
  rw [memcached_eq_accepted, memcached_eq_accepted]
  refine exists_fields_keeping (fun o => ?_) j
  rw [Field.optional_keeping rfl rfl (heeds_id _)]

theorem spec_heeds : Heeds spec Json.declaredSpec := by
  intro j x
  rw [spec, model_eq_accepted, model_eq_accepted]
  refine exists_fields_keeping (fun o => ?_) j
  rw [specFields_eq_accepted, specFields_eq_accepted,
    Field.required_keeping rfl rfl (heeds_id _), Field.required_keeping rfl rfl (heeds_id _),
    Field.optional_keeping rfl rfl resources_heeds, Field.optional_keeping rfl rfl autoscaling_heeds,
    Field.required_keeping rfl rfl storage_heeds, Field.required_keeping rfl rfl database_heeds,
    Field.optional_keeping rfl rfl php_heeds, Field.optional_keeping rfl rfl memcached_heeds]

/-- A body declares the same as what is left of it without all that no part has a field for. -/
theorem read_declared (j : Json) (t : Declaration) :
    Declaration.read j.declared = .ok t ↔ Declaration.read j = .ok t := by
  rw [read_eq_ok_iff, read_eq_ok_iff]
  refine exists_fields_keeping (fun o => ?_) j
  rw [declarationFields_eq_accepted, declarationFields_eq_accepted,
    Field.optional_keeping rfl rfl (heeds_id _), Field.optional_keeping rfl rfl (heeds_id _),
    Field.required_keeping rfl rfl metadata_heeds, Field.required_keeping rfl rfl spec_heeds]

/-! ## Reading by the grammar -/

/-- A body whose size is no truth value is read as what it declares, and refused if it declares
nothing: then a report leads to what is wrong with it. What no part has a field for plays no role. -/
theorem read_iff_declares {j : Json}
    (hsize : ∀ b, j.at? ["spec", "storage", "size"] ≠ some (.bool b)) :
    (∀ t, Declaration.read j = .ok t ↔ Grammar.Declares j t) ∧
    ((¬ ∃ t, Grammar.Declares j t) → ∃ issues,
      Declaration.read j = .error ⟨"TenantDeclaration", issues⟩ ∧ issues ≠ [] ∧
        ∀ i ∈ issues, i.Concerns j) ∧
    ∀ t, Declaration.read j.declared = .ok t ↔ Declaration.read j = .ok t := by
  refine ⟨fun t => Grammar.read_eq_ok_iff_declares hsize, fun hnone => ?_, read_declared j⟩
  cases h : Declaration.read j with
  | ok t => exact absurd ⟨t, (Grammar.read_eq_ok_iff_declares hsize).1 h⟩ hnone
  | error report =>
    obtain ⟨title, issues⟩ := report
    obtain ⟨rfl, hissues⟩ := read_error h
    exact ⟨issues, rfl, hissues⟩

theorem lenientTenant_declares :
    (∃ t, Grammar.Declares lenientTenant t ∧ t.spec.storage.size = "5" ∧
      t.spec.autoscaling = ⟨true, some 3, 10, none⟩) ∧
    (¬ ∃ t, Grammar.Declares (.obj []) t) ∧
    ∃ issues, Declaration.read (.obj []) = .error ⟨"TenantDeclaration", issues⟩ ∧ issues ≠ [] := by
  have hlenient := read_iff_declares (j := lenientTenant) (by rintro b ⟨⟩)
  have hempty := read_iff_declares (j := .obj []) (by rintro b ⟨⟩)
  have hnone : ¬ ∃ t, Grammar.Declares (.obj []) t := by
    rintro ⟨t, ht⟩
    cases (hempty.1 t).2 ht
  obtain ⟨issues, hread, hsome, -⟩ := hempty.2.1 hnone
  exact ⟨⟨_, (hlenient.1 _).1 rfl, rfl, rfl⟩, hnone, issues, hread, hsome⟩

end Validation
end MoodleTenancy
