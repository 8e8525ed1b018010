import MoodleTenancy.Declaration.Reading
import MoodleTenancy.Declaration.Writing

/-!
# What readers accept

* `Checked.and_eq_accepted` and its kin: a reading is accepted if its parts are.
* `Field.required_eq_accepted`, `Field.optional_eq_accepted`: fields of an object.
* `Field.required_set`, `Field.optional_set`, `Field.value?_erase`: fields do not depend on those of
  other names.
* `text_eq_accepted` and its kin: the values that single readers accept.
* `metadataFields_eq_accepted`, `specFields_eq_accepted` and their kin: the parts of a declaration,
  field by field.
* `declarationFields_eq_accepted`, `read_eq_ok_iff`: the whole of it.
-/

namespace MoodleTenancy.Validation
set_option autoImplicit false

variable {α β : Type}

/-! ## Combined readings -/

namespace Checked

theorem map_eq_accepted {f : α → β} {x : Checked α} {b : β} :
    x.map f = accepted b ↔ ∃ a, x = accepted a ∧ f a = b := by
  cases x <;> simp [map]

theorem and_eq_accepted {f : Checked (α → β)} {x : Checked α} {b : β} :
    f.and x = accepted b ↔ ∃ g a, f = accepted g ∧ x = accepted a ∧ g a = b := by
  cases f <;> cases x <;> simp [Checked.and]

theorem within_eq_accepted {step : Step} {x : Checked α} {a : α} :
    x.within step = accepted a ↔ x = accepted a := by
  cases x <;> simp [within]

theorem andThen_eq_accepted {x : Checked α} {f : α → Checked β} {b : β} :
    x.andThen f = accepted b ↔ ∃ a, x = accepted a ∧ f a = accepted b := by
  cases x <;> simp [andThen]

/-- A check that leaves the value as it is. -/
theorem check_eq_accepted {x : Checked α} {P : α → Prop} [DecidablePred P] {c : α → Complaint}
    {j : Json} {a : α} :
    (x.andThen fun b => if P b then accepted b else refuse (c b) j) = accepted a ↔
      x = accepted a ∧ P a := by
  rw [andThen_eq_accepted]
  constructor
  · rintro ⟨b, hx, h⟩
    split at h
    · obtain rfl := accepted.inj h
      exact ⟨hx, ‹_›⟩
    · cases h
  · rintro ⟨hx, ha⟩
    exact ⟨a, hx, if_pos ha⟩

theorem report_eq_ok {model : String} {x : Checked α} {a : α} :
    x.report model = .ok a ↔ x = accepted a := by
  cases x <;> simp [report]

end Checked

/-! ## Fields -/

namespace Field

/-- The value that an object has for a field. -/
def value? (f : Field) (fields : Fields) : Option Json := (f.find? fields).map (·.2)

theorem value?_self (wire : String) (fields : Fields) :
    (⟨wire, wire⟩ : Field).value? fields = Fields.get? wire fields := by
  simp only [value?, find?]
  cases h : Fields.get? wire fields <;> simp

theorem required_eq_accepted {f : Field} {r : Reader α} {fields : Fields} {a : α} :
    f.required r fields = .accepted a ↔ ∃ v, f.value? fields = some v ∧ r v = .accepted a := by
  simp only [required, value?]
  cases f.find? fields <;> simp [Checked.within_eq_accepted, refuse]

theorem optional_eq_accepted {f : Field} {r : Reader α} {default a : α} {fields : Fields} :
    f.optional default r fields = .accepted a ↔
      (f.value? fields = none ∧ a = default) ∨
        ∃ v, f.value? fields = some v ∧ r v = .accepted a := by
  simp only [optional, value?]
  cases f.find? fields with
  | none => simp [eq_comm]
  | some found => simp [Checked.within_eq_accepted]

/-- Whether a field is accepted depends on its value alone. -/
theorem required_congr {f : Field} {r : Reader α} {fields fields' : Fields} {a : α}
    (h : f.value? fields = f.value? fields') :
    f.required r fields = .accepted a ↔ f.required r fields' = .accepted a := by
  rw [required_eq_accepted, required_eq_accepted, h]

theorem optional_congr {f : Field} {r : Reader α} {fields fields' : Fields} {default a : α}
    (h : f.value? fields = f.value? fields') :
    f.optional default r fields = .accepted a ↔ f.optional default r fields' = .accepted a := by
  rw [optional_eq_accepted, optional_eq_accepted, h]

/-- A field is not touched by a key that is none of its names. -/
theorem find?_set {f : Field} {key : String} (hw : key ≠ f.wire) (ha : key ≠ f.alternative)
    (v : Json) (fields : Fields) : f.find? (Fields.set key v fields) = f.find? fields := by
  simp only [find?]
  rw [Fields.get?_set_ne (by simpa using hw), Fields.get?_set_ne (by simpa using ha)]

theorem value?_set {f : Field} {key : String} (hw : key ≠ f.wire) (ha : key ≠ f.alternative)
    (v : Json) (fields : Fields) : f.value? (Fields.set key v fields) = f.value? fields := by
  rw [value?, find?_set hw ha, value?]

theorem value?_erase {f : Field} {key : String} (hw : key ≠ f.wire) (ha : key ≠ f.alternative)
    (fields : Fields) : f.value? (Fields.erase key fields) = f.value? fields := by
  simp only [value?, find?]
  rw [Fields.get?_erase, Fields.get?_erase, if_neg (by simpa using hw), if_neg (by simpa using ha)]

theorem optional_set {f : Field} {key : String} (hw : key ≠ f.wire) (ha : key ≠ f.alternative)
    (default : α) (r : Reader α) (v : Json) (fields : Fields) :
    f.optional default r (Fields.set key v fields) = f.optional default r fields := by
  simp only [optional, find?_set hw ha]

/-- A required field may have the whole object in its complaint, but only if it is missing. -/
theorem required_set {f : Field} {key : String} (hw : key ≠ f.wire) (ha : key ≠ f.alternative)
    (r : Reader α) (v : Json) {fields : Fields} (h : (f.value? fields).isSome) :
    f.required r (Fields.set key v fields) = f.required r fields := by
  simp only [required, find?_set hw ha]
  simp only [value?, Option.isSome_map] at h
  obtain ⟨found, hf⟩ := Option.isSome_iff_exists.1 h
  rw [hf]

theorem required_set_self {key : String} (r : Reader α) (v : Json) (fields : Fields) :
    (⟨key, key⟩ : Field).required r (Fields.set key v fields) = (r v).within (.key key) := by
  simp only [required, find?, Fields.get?_set_self]

theorem optional_set_self {f : Field} {key : String} (h : f.wire = key) (default : α)
    (r : Reader α) (v : Json) (fields : Fields) :
    f.optional default r (Fields.set key v fields) = (r v).within (.key key) := by
  subst h
  simp only [optional, find?, Fields.get?_set_self]

end Field

/-! ## Single values and lists -/

theorem text_eq_accepted {j : Json} {s : String} : text j = .accepted s ↔ j = .str s := by
  cases j <;> simp [text, refuse]

theorem nonEmptyText_eq_accepted {j : Json} {s : String} :
    nonEmptyText j = .accepted s ↔ j = .str s ∧ s ≠ "" := by
  cases j with
  | str t =>
    by_cases h : t = ""
    · subst h
      simp only [nonEmptyText, if_true, refuse, reduceCtorEq, Json.str.injEq, false_iff]
      rintro ⟨rfl, hs⟩
      exact hs rfl
    · simp only [nonEmptyText, h, if_false, Checked.accepted.injEq, Json.str.injEq]
      exact ⟨fun e => ⟨e, e ▸ h⟩, fun e => e.1⟩
  | _ => simp [nonEmptyText, refuse]

theorem atLeast_eq_accepted {least : Int} {j : Json} {n : Int} :
    atLeast least j = .accepted n ↔ integer j = .accepted n ∧ least ≤ n :=
  Checked.check_eq_accepted

theorem between_eq_accepted {least greatest : Int} {j : Json} {n : Int} :
    between least greatest j = .accepted n ↔ atLeast least j = .accepted n ∧ n ≤ greatest :=
  Checked.check_eq_accepted

theorem nullable_of_ne_null {r : Reader α} {j : Json} (hj : j ≠ .null) :
    nullable r j = (r j).map some := by
  cases j <;> first | rfl | exact absurd rfl hj

theorem nullable_text_eq_accepted {j : Json} {s : Option String} :
    nullable text j = .accepted s ↔ j = .ofText? s := by
  cases s <;> cases j <;>
    simp [nullable, text, refuse, Checked.map, Json.ofText?, Json.ofOption]

theorem itemsFrom_text_eq_accepted {i : Nat} {js : List Json} {ss : List String} :
    itemsFrom text i js = .accepted ss ↔ js = ss.map Json.str := by
  induction js generalizing i ss with
  | nil => cases ss <;> simp [itemsFrom]
  | cons j js ih =>
    simp only [itemsFrom, Checked.and_eq_accepted, Checked.map_eq_accepted,
      Checked.within_eq_accepted, text_eq_accepted, ih]
    constructor
    · rintro ⟨_, ss', ⟨s, rfl, rfl⟩, rfl, rfl⟩
      rfl
    · intro h
      cases ss with
      | nil => simp at h
      | cons s ss' =>
        obtain ⟨rfl, rfl⟩ := List.cons.inj h
        exact ⟨_, ss', ⟨s, rfl, rfl⟩, rfl, rfl⟩

theorem listOf_text_eq_accepted {j : Json} {ss : List String} :
    listOf text j = .accepted ss ↔ j = .strings ss := by
  cases j <;> simp [listOf, refuse, Json.strings, itemsFrom_text_eq_accepted]

theorem model_eq_accepted {name : String} {r : FieldReader α} {j : Json} {a : α} :
    model name r j = .accepted a ↔ ∃ fields, j = .obj fields ∧ r fields = .accepted a := by
  cases j <;> simp [model, refuse]

/-! ## The parts of a specification -/

theorem resources_eq_accepted {j : Json} {x : Resources} :
    resources j = .accepted x ↔ ∃ fields, j = .obj fields ∧
      Field.optional ⟨"requests", "requests"⟩ [] (mapOf quantity) fields = .accepted x.requests ∧
      Field.optional ⟨"limits", "limits"⟩ [] (mapOf quantity) fields = .accepted x.limits := by
  simp only [resources, model_eq_accepted, Checked.and_eq_accepted, Checked.map_eq_accepted]
  constructor
  · rintro ⟨fields, rfl, _, _, ⟨_, hr, rfl⟩, hl, rfl⟩
    exact ⟨fields, rfl, hr, hl⟩
  · rintro ⟨fields, rfl, hr, hl⟩
    exact ⟨fields, rfl, _, _, ⟨_, hr, rfl⟩, hl, rfl⟩

theorem autoscalingFields_eq_accepted {fields : Fields} {x : Autoscaling} :
    autoscalingFields fields = .accepted x ↔
      Field.optional ⟨"enabled", "enabled"⟩ false flag fields = .accepted x.enabled ∧
      Field.optional ⟨"minReplicas", "min_replicas"⟩ none (nullable (atLeast 1)) fields =
        .accepted x.minReplicas ∧
      Field.optional ⟨"maxReplicas", "max_replicas"⟩ 10 (atLeast 1) fields =
        .accepted x.maxReplicas ∧
      Field.optional ⟨"targetCPU", "target_cpu"⟩ none (nullable (between 1 100)) fields =
        .accepted x.targetCpu := by
  simp only [autoscalingFields, Checked.and_eq_accepted, Checked.map_eq_accepted]
  constructor
  · rintro ⟨_, _, ⟨_, _, ⟨_, _, ⟨_, he, rfl⟩, hmin, rfl⟩, hmax, rfl⟩, hcpu, rfl⟩
    exact ⟨he, hmin, hmax, hcpu⟩
  · rintro ⟨he, hmin, hmax, hcpu⟩
    exact ⟨_, _, ⟨_, _, ⟨_, _, ⟨_, he, rfl⟩, hmin, rfl⟩, hmax, rfl⟩, hcpu, rfl⟩

/-- Bounds that leave no room are refused, and nothing else is beyond the fields. -/
theorem autoscaling_eq_accepted {j : Json} {x : Autoscaling} :
    autoscaling j = .accepted x ↔ ∃ fields, j = .obj fields ∧
      autoscalingFields fields = .accepted x ∧ x.isConsistent = true := by
  rw [autoscaling, Checked.check_eq_accepted, model_eq_accepted]
  simp only [← exists_and_right, and_assoc]

theorem storage_eq_accepted {j : Json} {x : Storage} :
    storage j = .accepted x ↔ ∃ fields, j = .obj fields ∧
      Field.required ⟨"size", "size"⟩ size fields = .accepted x.size ∧
      Field.optional ⟨"storageClass", "storage_class"⟩ "" text fields =
        .accepted x.storageClass := by
  simp only [storage, model_eq_accepted, Checked.and_eq_accepted, Checked.map_eq_accepted]
  constructor
  · rintro ⟨fields, rfl, _, _, ⟨_, hs, rfl⟩, hc, rfl⟩
    exact ⟨fields, rfl, hs, hc⟩
  · rintro ⟨fields, rfl, hs, hc⟩
    exact ⟨fields, rfl, _, _, ⟨_, hs, rfl⟩, hc, rfl⟩

theorem database_eq_accepted {j : Json} {x : Database} :
    database j = .accepted x ↔ ∃ fields, j = .obj fields ∧
      Field.required ⟨"host", "host"⟩ nonEmptyText fields = .accepted x.host ∧
      Field.required ⟨"adminSecret", "admin_secret"⟩ nonEmptyText fields =
        .accepted x.adminSecret ∧
      Field.required ⟨"name", "name"⟩ nonEmptyText fields = .accepted x.name ∧
      Field.required ⟨"user", "user"⟩ nonEmptyText fields = .accepted x.user ∧
      Field.required ⟨"password", "password"⟩ nonEmptyText fields = .accepted x.password := by
  simp only [database, model_eq_accepted, Checked.and_eq_accepted, Checked.map_eq_accepted]
  constructor
  · rintro ⟨fields, rfl, _, _, ⟨_, _, ⟨_, _, ⟨_, _, ⟨_, hh, rfl⟩, hs, rfl⟩, hn, rfl⟩, hu, rfl⟩, hp,
      rfl⟩
    exact ⟨fields, rfl, hh, hs, hn, hu, hp⟩
  · rintro ⟨fields, rfl, hh, hs, hn, hu, hp⟩
    exact ⟨fields, rfl, _, _, ⟨_, _, ⟨_, _, ⟨_, _, ⟨_, hh, rfl⟩, hs, rfl⟩, hn, rfl⟩, hu, rfl⟩, hp,
      rfl⟩

theorem php_eq_accepted {j : Json} {x : Php} :
    php j = .accepted x ↔ ∃ fields, j = .obj fields ∧
      Field.optional ⟨"maxExecutionTime", "max_execution_time"⟩ 0 (atLeast 0) fields =
        .accepted x.maxExecutionTime ∧
      Field.optional ⟨"memoryLimit", "memory_limit"⟩ "" text fields = .accepted x.memoryLimit := by
  simp only [php, model_eq_accepted, Checked.and_eq_accepted, Checked.map_eq_accepted]
  constructor
  · rintro ⟨fields, rfl, _, _, ⟨_, ht, rfl⟩, hm, rfl⟩
    exact ⟨fields, rfl, ht, hm⟩
  · rintro ⟨fields, rfl, ht, hm⟩
    exact ⟨fields, rfl, _, _, ⟨_, ht, rfl⟩, hm, rfl⟩

theorem memcached_eq_accepted {j : Json} {x : Memcached} :
    memcached j = .accepted x ↔ ∃ fields, j = .obj fields ∧
      Field.optional ⟨"memoryMB", "memory_mb"⟩ 0 (atLeast 0) fields = .accepted x.memoryMb := by
  simp only [memcached, model_eq_accepted, Checked.map_eq_accepted]
  constructor
  · rintro ⟨fields, rfl, _, hm, rfl⟩
    exact ⟨fields, rfl, hm⟩
  · rintro ⟨fields, rfl, hm⟩
    exact ⟨fields, rfl, _, hm, rfl⟩

theorem specFields_eq_accepted {fields : Fields} {x : Spec} :
    specFields fields = .accepted x ↔
      Field.required ⟨"hostname", "hostname"⟩ nonEmptyText fields = .accepted x.hostname ∧
      Field.required ⟨"image", "image"⟩ nonEmptyText fields = .accepted x.image ∧
      Field.optional ⟨"resources", "resources"⟩ {} resources fields = .accepted x.resources ∧
      Field.optional ⟨"hpa", "autoscaling"⟩ {} autoscaling fields = .accepted x.autoscaling ∧
      Field.required ⟨"storage", "storage"⟩ storage fields = .accepted x.storage ∧
      Field.required ⟨"databaseRef", "database"⟩ database fields = .accepted x.database ∧
      Field.optional ⟨"phpSettings", "php"⟩ {} php fields = .accepted x.php ∧
      Field.optional ⟨"memcached", "memcached"⟩ {} memcached fields = .accepted x.memcached := by
  simp only [specFields, Checked.and_eq_accepted, Checked.map_eq_accepted]
  constructor
  · rintro ⟨_, _, ⟨_, _, ⟨_, _, ⟨_, _, ⟨_, _, ⟨_, _, ⟨_, _, ⟨_, hh, rfl⟩, hi, rfl⟩, hr, rfl⟩, ha, rfl⟩,
      hs, rfl⟩, hd, rfl⟩, hp, rfl⟩, hm, rfl⟩
    exact ⟨hh, hi, hr, ha, hs, hd, hp, hm⟩
  · rintro ⟨hh, hi, hr, ha, hs, hd, hp, hm⟩
    exact ⟨_, _, ⟨_, _, ⟨_, _, ⟨_, _, ⟨_, _, ⟨_, _, ⟨_, _, ⟨_, hh, rfl⟩, hi, rfl⟩, hr, rfl⟩, ha, rfl⟩,
      hs, rfl⟩, hd, rfl⟩, hp, rfl⟩, hm, rfl⟩

/-! ## Metadata and declarations -/

theorem metadataFields_eq_accepted {fields : Fields} {m : Metadata} :
    metadataFields fields = .accepted m ↔
      Field.required ⟨"name", "name"⟩ nonEmptyText fields = .accepted m.name ∧
      Field.optional ⟨"uid", "uid"⟩ none (nullable text) fields = .accepted m.uid ∧
      Field.optional ⟨"resourceVersion", "resource_version"⟩ none (nullable text) fields =
        .accepted m.resourceVersion ∧
      Field.optional ⟨"generation", "generation"⟩ none (nullable integer) fields =
        .accepted m.generation ∧
      Field.optional ⟨"finalizers", "finalizers"⟩ [] (listOf text) fields =
        .accepted m.finalizers ∧
      Field.optional ⟨"deletionTimestamp", "deletion_timestamp"⟩ none (nullable text) fields =
        .accepted m.deletionTimestamp := by
  simp only [metadataFields, Checked.and_eq_accepted, Checked.map_eq_accepted]
  constructor
  · rintro ⟨_, _, ⟨_, _, ⟨_, _, ⟨_, _, ⟨_, _, ⟨_, hn, rfl⟩, hu, rfl⟩, hr, rfl⟩, hg, rfl⟩, hf, rfl⟩,
      hd, rfl⟩
    exact ⟨hn, hu, hr, hg, hf, hd⟩
  · rintro ⟨hn, hu, hr, hg, hf, hd⟩
    exact ⟨_, _, ⟨_, _, ⟨_, _, ⟨_, _, ⟨_, _, ⟨_, hn, rfl⟩, hu, rfl⟩, hr, rfl⟩, hg, rfl⟩, hf, rfl⟩,
      hd, rfl⟩

theorem declarationFields_eq_accepted {fields : Fields} {t : Declaration} :
    declarationFields fields = .accepted t ↔
      Field.optional ⟨"apiVersion", "api_version"⟩
        (Declaration.group ++ "/" ++ Declaration.version) text fields = .accepted t.apiVersion ∧
      Field.optional ⟨"kind", "kind"⟩ Declaration.kindName text fields = .accepted t.kind ∧
      Field.required ⟨"metadata", "metadata"⟩ metadata fields = .accepted t.metadata ∧
      Field.required ⟨"spec", "spec"⟩ spec fields = .accepted t.spec := by
  simp only [declarationFields, Checked.and_eq_accepted, Checked.map_eq_accepted]
  constructor
  · rintro ⟨_, _, ⟨_, _, ⟨_, _, ⟨_, ha, rfl⟩, hk, rfl⟩, hm, rfl⟩, hs, rfl⟩
    exact ⟨ha, hk, hm, hs⟩
  · rintro ⟨ha, hk, hm, hs⟩
    exact ⟨_, _, ⟨_, _, ⟨_, _, ⟨_, ha, rfl⟩, hk, rfl⟩, hm, rfl⟩, hs, rfl⟩

theorem read_eq_ok_iff {j : Json} {t : Declaration} :
    Declaration.read j = .ok t ↔
      ∃ fields, j = .obj fields ∧ declarationFields fields = .accepted t := by
  rw [Declaration.read, Checked.report_eq_ok, declaration, model_eq_accepted]

/-- A valid body has a valid spec. -/
theorem spec_of_read {j : Json} {t : Declaration} (h : Declaration.read j = .ok t) :
    ∃ v, j.get? "spec" = some v ∧ spec v = .accepted t.spec := by
  obtain ⟨fields, rfl, ht⟩ := read_eq_ok_iff.1 h
  obtain ⟨-, -, -, hs⟩ := declarationFields_eq_accepted.1 ht
  obtain ⟨v, hv, hspec⟩ := Field.required_eq_accepted.1 hs
  rw [Field.value?_self] at hv
  exact ⟨v, hv, hspec⟩

end MoodleTenancy.Validation
