import MoodleTenancy.Operator.Guard
import MoodleTenancy.Proofs.Acceptance

/-!
# Bodies of tenants

What a pass reads in a tenant's body, and what of it stays when the body is changed.

* `metadataOf`: the metadata of a body, as a pass reads it.
* `Json.metadatum`: a field of a body's metadata, as it stands. `Json.under`: one of any part.
* `IsGuarded`: a body has a finalizer.
* `Json.setMetadata`: the body with a field of its metadata set.
* `metadataOf_replaceFinalizers`, `metadataOf_withVersion`: metadata after the changes that passes
  make.
* `parse_setMetadata`: a declaration stays valid, with its new metadata and all else as it was.
* `parse_set_status`: a declaration stays as it is whatever its status.
* `plainTenant`, `lenientTenant`: valid bodies, for examples.
-/

namespace MoodleTenancy
set_option autoImplicit false

open Validation

/-! ## Fields set in turn -/

namespace Fields

variable {α : Type}

theorem set_set (key : Key) (u v : α) (fields : List (Key × α)) :
    set key v (set key u fields) = set key v fields := by
  induction fields with
  | nil => simp [set]
  | cons f rest ih =>
    obtain ⟨k, w⟩ := f
    by_cases h : k.identity = key.identity
    · simp [set, h]
    · simp [set, h, ih]

/-- A field is set to what it is already. -/
theorem set_of_get? {key : Key} {v : α} {fields : List (Key × α)} (h : get? key fields = some v) :
    set key v fields = fields := by
  induction fields with
  | nil => simp at h
  | cons f rest ih =>
    obtain ⟨k, w⟩ := f
    rw [get?_cons] at h
    by_cases hk : k.identity = key.identity
    · rw [if_pos hk, Option.some.injEq] at h
      simp [set, hk, h]
    · rw [if_neg hk] at h
      simp [set, hk, ih h]

end Fields

/-! ## What a body says -/

theorem Json.entry_eq_ok {key : String} {j v : Json} :
    j.entry key = .ok v ↔ j.get? key = some v := by
  cases j with
  | obj fields =>
    simp only [entry, get?_obj]
    cases Fields.get? key fields <;> simp
  | _ => simp [entry, get?]

theorem Json.eq_some_of_ofOption {o : Option Json} {j : Json} (h : ofOption o = j) (hj : j ≠ .null) :
    o = some j := by
  cases o with
  | none => exact absurd h.symm hj
  | some v => exact congrArg some h

/-- The metadata of a body. -/
def metadataOf (body : Json) : Except Fault Metadata :=
  (body.entry "metadata").bind Metadata.parse

def Json.metadatum (key : String) (body : Json) : Option Json :=
  (body.get? "metadata").bind (Json.get? key)

/-- A field of a part of a body. -/
def Json.under (part : String) (key : Key) (body : Json) : Option Json :=
  (body.get? part).bind (Json.get? key)

def IsGuarded (guard : String) (body : Json) : Prop :=
  ∃ items, body.metadatum "finalizers" = some (.arr items) ∧ Json.str guard ∈ items

/-- A report that went well is as good as a reading that was accepted. -/
theorem mapError_report_eq_ok {α : Type} {model : String} {r : Checked α} {a : α} :
    (r.report model).mapError Fault.invalid = .ok a ↔ r = .accepted a := by
  cases r with
  | accepted b =>
    constructor
    · intro h
      rw [Except.ok.inj h]
    · intro h
      rw [Checked.accepted.inj h]
      rfl
  | refused issues =>
    constructor
    · intro h
      exact absurd h (by rintro ⟨⟩)
    · intro h
      exact absurd h (by rintro ⟨⟩)

theorem eq_of_map_const {α β : Type} {e : Except Fault α} {x y : β}
    (h : (e.map fun _ => x) = .ok y) : y = x := by
  cases e with
  | error fault => exact absurd h (by simp [Except.map])
  | ok _ => exact (Except.ok.inj h).symm

theorem eq_ok_of_toOption {α : Type} {e : Except Fault α} {a : α} (h : e.toOption = some a) :
    e = .ok a := by
  cases e with
  | error fault => exact absurd h (by simp [Except.toOption])
  | ok b => rw [Option.some.inj h]

theorem metadataOf_eq_ok {body : Json} {m : Metadata} :
    metadataOf body = .ok m ↔
      ∃ fields md, body = .obj fields ∧ Fields.get? "metadata" fields = some (.obj md) ∧
        metadataFields md = .accepted m := by
  have hp : ∀ j, Metadata.parse j = .ok m ↔ ∃ md, j = .obj md ∧ metadataFields md = .accepted m := by
    intro j
    rw [← @model_eq_accepted _ "ObjectMeta", Metadata.parse, Metadata.read, metadata,
      mapError_report_eq_ok]
  cases body with
  | obj fields =>
    simp only [metadataOf, Json.entry, Json.obj.injEq]
    cases h : Fields.get? "metadata" fields with
    | none => simp [Except.bind, h]
    | some j => simp [Except.bind, hp, h]
  | _ => simp [metadataOf, Json.entry, Except.bind]

theorem Operator.stage_eq (op : Operator) (body : Json) :
    op.stage body =
      (metadataOf body).map fun m => .of m.isMarked (m.finalizers.contains op.guard) := by
  simp only [stage, metadataOf, bind, Except.bind]
  cases body.entry "metadata" with
  | error fault => rfl
  | ok j => cases Metadata.parse j <;> rfl

theorem get?_name_of_accepted {md : Fields} {m : Metadata} (h : metadataFields md = .accepted m) :
    Fields.get? "name" md = some (.str m.name) := by
  obtain ⟨v, hv, hn⟩ := Field.required_eq_accepted.1 (metadataFields_eq_accepted.1 h).1
  rw [Field.value?_self] at hv
  rw [hv, (nonEmptyText_eq_accepted.1 hn).1]

/-- The finalizers that are read are those that stand there. -/
theorem get?_finalizers_of_accepted {md : Fields} {m : Metadata}
    (h : metadataFields md = .accepted m) :
    (Fields.get? "finalizers" md = none ∧ m.finalizers = []) ∨
      Fields.get? "finalizers" md = some (.strings m.finalizers) := by
  obtain ⟨-, -, -, -, hf, -⟩ := metadataFields_eq_accepted.1 h
  rw [Field.optional_eq_accepted, Field.value?_self] at hf
  obtain hf | ⟨v, hv, hl⟩ := hf
  · exact .inl hf
  · rw [hv, listOf_text_eq_accepted.1 hl]
    exact .inr rfl

theorem Json.metadatum_eq_some {key : String} {body v : Json} (h : body.metadatum key = some v) :
    ∃ fields md, body = .obj fields ∧ Fields.get? "metadata" fields = some (.obj md) ∧
      Fields.get? key md = some v := by
  rw [metadatum, Option.bind_eq_some_iff] at h
  obtain ⟨j, hj, hv⟩ := h
  cases body with
  | obj fields =>
    cases j with
    | obj md => exact ⟨fields, md, rfl, hj, hv⟩
    | _ => exact absurd hv (by simp [get?])
  | _ => exact absurd hj (by simp [get?])

theorem metadatum_name {body : Json} {m : Metadata} (h : metadataOf body = .ok m) :
    body.metadatum "name" = some (.str m.name) := by
  obtain ⟨fields, md, rfl, hg, ha⟩ := metadataOf_eq_ok.1 h
  simp [Json.metadatum, hg, get?_name_of_accepted ha]

theorem name_ne_empty {body : Json} {m : Metadata} (h : metadataOf body = .ok m) :
    m.name ≠ "" := by
  obtain ⟨fields, md, rfl, -, ha⟩ := metadataOf_eq_ok.1 h
  obtain ⟨v, -, hn⟩ := Field.required_eq_accepted.1 (metadataFields_eq_accepted.1 ha).1
  exact (nonEmptyText_eq_accepted.1 hn).2

theorem isGuarded_iff {body : Json} {m : Metadata} (h : metadataOf body = .ok m) (guard : String) :
    IsGuarded guard body ↔ m.finalizers.contains guard = true := by
  obtain ⟨fields, md, rfl, hg, ha⟩ := metadataOf_eq_ok.1 h
  simp only [IsGuarded, Json.metadatum, Json.get?_obj, hg, Option.bind_some]
  obtain ⟨hn, he⟩ | hs := get?_finalizers_of_accepted ha
  · simp [hn, he]
  · simp [hs, Json.strings]

theorem isGuarded_of_any {guard : String} {body : Json}
    (h : (metadataOf body).toOption.any (·.finalizers.contains guard) = true) :
    IsGuarded guard body := by
  cases hm : metadataOf body with
  | error fault => simp [hm, Except.toOption] at h
  | ok m => exact (isGuarded_iff hm guard).2 (by simpa [hm, Except.toOption] using h)

theorem finalizersIn_of_accepted {md : Fields} {m : Metadata}
    (h : metadataFields md = .accepted m) :
    Operator.finalizersIn (.obj md) = .ok (m.finalizers.map .str) := by
  simp only [Operator.finalizersIn, Json.field_obj, bind, Except.bind]
  obtain ⟨hn, he⟩ | hs := get?_finalizers_of_accepted h
  · simp [hn, he, Json.ofOption, Json.isTruthy, pure, Except.pure]
  · rw [hs]
    cases hf : m.finalizers with
    | nil => simp [Json.strings, Json.ofOption, Json.isTruthy, pure, Except.pure]
    | cons f rest => simp [Json.strings, Json.ofOption, Json.isTruthy, Json.itemsOf]

/-- A tenant is read as marked for deletion if it has the time of that. -/
theorem isMarked_of_isTruthy {body : Json} {m : Metadata} (h : metadataOf body = .ok m)
    (hd : (Json.ofOption (body.metadatum "deletionTimestamp")).isTruthy = true) :
    m.isMarked = true := by
  obtain ⟨fields, md, rfl, hg, ha⟩ := metadataOf_eq_ok.1 h
  simp only [Json.metadatum, Json.get?_obj, hg, Option.bind_some] at hd
  obtain ⟨-, -, -, -, -, hdel⟩ := metadataFields_eq_accepted.1 ha
  cases hv : Fields.get? "deletionTimestamp" md with
  | none => simp [hv, Json.ofOption, Json.isTruthy] at hd
  | some v =>
    have hval : Field.value? ⟨"deletionTimestamp", "deletion_timestamp"⟩ md = some v := by
      simp [Field.value?, Field.find?, hv]
    rw [Field.optional_eq_accepted, hval] at hdel
    obtain ⟨hn, -⟩ | ⟨u, hu, hdel⟩ := hdel
    · exact absurd hn (by simp)
    rw [← Option.some.inj hu, nullable_text_eq_accepted] at hdel
    subst hdel
    cases ht : m.deletionTimestamp with
    | none => simp [hv, ht, Json.ofText?, Json.ofOption, Json.isTruthy] at hd
    | some t =>
      simpa [hv, ht, Json.ofText?, Json.ofOption, Json.isTruthy, Metadata.isMarked] using hd

/-! ## Changes of the metadata -/

def Json.setMetadata (body : Json) (key : String) (v : Json) : Json :=
  body.set "metadata" ((Json.ofOption (body.get? "metadata")).set key v)

def Json.withVersion (body : Json) (version : Json) : Json :=
  body.setMetadata "resourceVersion" version

theorem replaceFinalizers_eq (body : Json) (finalizers : List Json) :
    Operator.replaceFinalizers body finalizers = body.setMetadata "finalizers" (.arr finalizers) :=
  rfl

theorem Json.get?_metadata_setMetadata {fields md : Fields}
    (h : Fields.get? "metadata" fields = some (.obj md)) (key : String) (v : Json) :
    ((Json.obj fields).setMetadata key v).get? "metadata" = some (.obj (Fields.set key v md)) := by
  simp [setMetadata, h, ofOption]

theorem Json.get?_set_ne {key k : Key} (h : k.identity ≠ key.identity) (j v : Json) :
    (j.set k v).get? key = j.get? key := by
  cases j with
  | obj fields => exact Fields.get?_set_ne h v fields
  | _ => rfl

theorem Json.get?_setMetadata_ne {key : String} (h : key ≠ "metadata") (body : Json) (k : String)
    (v : Json) : (body.setMetadata k v).get? key = body.get? key := by
  have hk : (Key.text "metadata").identity ≠ (Key.text key).identity := by simpa using h.symm
  exact get?_set_ne hk _ _

theorem Json.under_set_self (fields : Fields) (part : String) (key : Key) (v : Json) :
    ((Json.obj fields).set part v).under part key = v.get? key := by
  rw [under, set_obj, get?_obj, Fields.get?_set_self]
  rfl

theorem Json.under_setMetadata_ne {key : Key} {k : String}
    (h : (Key.text k).identity ≠ key.identity) (body v : Json) :
    (body.setMetadata k v).under "metadata" key = body.under "metadata" key := by
  cases body with
  | obj fields =>
    simp only [under, setMetadata, get?_obj, set_obj, Fields.get?_set_self, Option.bind_some]
    cases hm : Fields.get? "metadata" fields with
    | none => rfl
    | some md => cases md <;> simp [ofOption, set, get?, Fields.get?_set_ne h]
  | _ => rfl

theorem metadatum_setMetadata_ne {key k : String} (h : k ≠ key) (body v : Json) :
    (body.setMetadata k v).metadatum key = body.metadatum key :=
  Json.under_setMetadata_ne (by simpa using h) body v

theorem metadatum_setMetadata_self {body : Json} {m : Metadata} (h : metadataOf body = .ok m)
    (key : String) (v : Json) : (body.setMetadata key v).metadatum key = some v := by
  obtain ⟨fields, md, rfl, hg, -⟩ := metadataOf_eq_ok.1 h
  simp [Json.metadatum, Json.setMetadata, hg, Json.ofOption]

theorem metadataOf_replaceFinalizers {body : Json} {m : Metadata} (h : metadataOf body = .ok m)
    (finalizers : List String) :
    metadataOf (Operator.replaceFinalizers body (finalizers.map .str)) =
      .ok { m with finalizers := finalizers } := by
  obtain ⟨fields, md, rfl, hg, ha⟩ := metadataOf_eq_ok.1 h
  obtain ⟨hn, hu, hr, hgen, hf, hd⟩ := metadataFields_eq_accepted.1 ha
  have hl : listOf text (.arr (finalizers.map .str)) = .accepted finalizers :=
    listOf_text_eq_accepted.2 rfl
  have hmd : metadataFields (Fields.set "finalizers" (.arr (finalizers.map .str)) md) =
      .accepted { m with finalizers := finalizers } := by
    rw [metadataFields_eq_accepted]
    refine ⟨?_, ?_, ?_, ?_, ?_, ?_⟩
    · rw [Field.required_set (by decide) (by decide), hn]
      rw [Field.value?_self, get?_name_of_accepted ha]
      rfl
    · rw [Field.optional_set (by decide) (by decide), hu]
    · rw [Field.optional_set (by decide) (by decide), hr]
    · rw [Field.optional_set (by decide) (by decide), hgen]
    · rw [Field.optional_set_self rfl, hl]
      rfl
    · rw [Field.optional_set (by decide) (by decide), hd]
  refine metadataOf_eq_ok.2 ⟨_, _, rfl, ?_, hmd⟩
  simp [hg, Json.ofOption]

theorem metadataOf_withVersion {body : Json} {m : Metadata} (h : metadataOf body = .ok m)
    (version : String) :
    metadataOf (body.withVersion (.str version)) = .ok { m with resourceVersion := version } := by
  obtain ⟨fields, md, rfl, hg, ha⟩ := metadataOf_eq_ok.1 h
  obtain ⟨hn, hu, hr, hgen, hf, hd⟩ := metadataFields_eq_accepted.1 ha
  have hmd : metadataFields (Fields.set "resourceVersion" (.str version) md) =
      .accepted { m with resourceVersion := version } := by
    rw [metadataFields_eq_accepted]
    refine ⟨?_, ?_, ?_, ?_, ?_, ?_⟩
    · rw [Field.required_set (by decide) (by decide), hn]
      rw [Field.value?_self, get?_name_of_accepted ha]
      rfl
    · rw [Field.optional_set (by decide) (by decide), hu]
    · rw [Field.optional_set_self rfl]
      rfl
    · rw [Field.optional_set (by decide) (by decide), hgen]
    · rw [Field.optional_set (by decide) (by decide), hf]
    · rw [Field.optional_set (by decide) (by decide), hd]
  refine metadataOf_eq_ok.2 ⟨_, _, rfl, ?_, hmd⟩
  simp [hg, Json.ofOption]

/-- The metadata is no matter of the rest of a body. -/
theorem metadataOf_set_ne {key : String} (h : key ≠ "metadata") (body v : Json) :
    metadataOf (body.set key v) = metadataOf body := by
  have hk : (Key.text key).identity ≠ (Key.text "metadata").identity := by simpa using h
  cases body <;> simp [metadataOf, Json.set, Json.entry, Fields.get?_set_ne hk]

/-! ## Declarations with other metadata -/

theorem parse_eq_ok {body : Json} {t : Declaration} :
    Declaration.parse body = .ok t ↔
      ∃ fields, body = .obj fields ∧ declarationFields fields = .accepted t := by
  rw [← @model_eq_accepted _ "TenantDeclaration", Declaration.parse, Declaration.read,
    declaration, mapError_report_eq_ok]

theorem metadataOf_of_parse {body : Json} {t : Declaration} (h : Declaration.parse body = .ok t) :
    metadataOf body = .ok t.metadata := by
  obtain ⟨fields, rfl, ha⟩ := parse_eq_ok.1 h
  obtain ⟨-, -, hm, -⟩ := declarationFields_eq_accepted.1 ha
  obtain ⟨v, hv, hr⟩ := Field.required_eq_accepted.1 hm
  obtain ⟨md, rfl, hmd⟩ := model_eq_accepted.1 hr
  rw [Field.value?_self] at hv
  exact metadataOf_eq_ok.2 ⟨fields, md, rfl, hv, hmd⟩

/-- What is read of a declaration before its metadata. -/
def headFields : FieldReader (Metadata → Spec → Declaration) := fun fields =>
  ((Field.optional ⟨"apiVersion", "api_version"⟩
    (Declaration.group ++ "/" ++ Declaration.version) text fields).map Declaration.mk).and
    (Field.optional ⟨"kind", "kind"⟩ Declaration.kindName text fields)

theorem declarationFields_set_metadata {md : Json} {m : Metadata} (hm : metadata md = .accepted m)
    (fields : Fields) :
    declarationFields (Fields.set "metadata" md fields) =
      ((headFields fields).and (.accepted m)).and
        (Field.required ⟨"spec", "spec"⟩ spec (Fields.set "metadata" md fields)) := by
  simp only [declarationFields, headFields]
  rw [Field.optional_set (by decide) (by decide), Field.optional_set (by decide) (by decide),
    Field.required_set_self, hm, Checked.within]

/-- A body with a spec is read alike whatever its metadata are: it is refused for the same reasons,
or accepted with the metadata in their place. -/
theorem parse_set_metadata {fields : Fields} (hs : (Fields.get? "spec" fields).isSome) :
    ∃ e : Except Fault Declaration, ∀ md m, metadata md = .accepted m →
      Declaration.parse (.obj (Fields.set "metadata" md fields)) =
        e.map fun t => { t with metadata := m } := by
  let rest := Field.required ⟨"spec", "spec"⟩ spec fields
  refine ⟨((((headFields fields).and (.accepted ⟨"", none, none, none, [], none⟩)).and rest).report
    "TenantDeclaration").mapError Fault.invalid, ?_⟩
  intro md m hm
  have hr : declarationFields (Fields.set "metadata" md fields) =
      ((headFields fields).and (.accepted m)).and rest := by
    rw [declarationFields_set_metadata hm, Field.required_set (by decide) (by decide)]
    rw [Field.value?_self]
    exact hs
  simp only [Declaration.parse, Declaration.read, declaration, model, hr]
  cases hhead : headFields fields with
  | refused is => cases rest <;> rfl
  | accepted g =>
    obtain ⟨_, k, hk, -, rfl⟩ := Checked.and_eq_accepted.1 hhead
    obtain ⟨a, -, rfl⟩ := Checked.map_eq_accepted.1 hk
    cases rest <;> rfl

/-- A body without a spec is refused. The last complaint is the same whatever its metadata are, but
it quotes them. -/
theorem parse_set_metadata_of_no_spec {fields : Fields} (hs : Fields.get? "spec" fields = none) :
    ∃ issues, ∀ md m, metadata md = .accepted m →
      Declaration.parse (.obj (Fields.set "metadata" md fields)) =
        .error (.invalid ⟨"TenantDeclaration", issues ++
          [⟨.missing, [.key "spec"], .json (.obj (Fields.set "metadata" md fields))⟩]⟩) := by
  have hkey : (Key.text "metadata").identity ≠ (Key.text "spec").identity := by decide
  refine ⟨(headFields fields).issues, ?_⟩
  intro md m hm
  have hmissing : Field.required ⟨"spec", "spec"⟩ spec (Fields.set "metadata" md fields) =
      .refused [⟨.missing, [.key "spec"], .json (.obj (Fields.set "metadata" md fields))⟩] := by
    simp [Field.required, Field.find?, Fields.get?_set_ne hkey, hs, refuse, Checked.within,
      Issue.within]
  have hr := declarationFields_set_metadata hm fields
  rw [hmissing] at hr
  simp only [Declaration.parse, Declaration.read, declaration, model, hr]
  cases headFields fields <;> rfl

/-- A valid declaration stays valid with other metadata in their place. -/
theorem parse_swap_metadata {fields : Fields} {old new : Json} {t : Declaration} {m : Metadata}
    (h : Declaration.parse (.obj (Fields.set "metadata" old fields)) = .ok t)
    (hm : metadata new = .accepted m) :
    Declaration.parse (.obj (Fields.set "metadata" new fields)) =
      .ok { t with metadata := m } := by
  have hkey : (Key.text "metadata").identity ≠ (Key.text "spec").identity := by decide
  obtain ⟨_, hobj, ha⟩ := parse_eq_ok.1 h
  obtain rfl := Json.obj.inj hobj
  obtain ⟨-, -, hmd, hs⟩ := declarationFields_eq_accepted.1 ha
  obtain ⟨j, hj, hold⟩ := Field.required_eq_accepted.1 hmd
  obtain ⟨_, hspec, -⟩ := Field.required_eq_accepted.1 hs
  rw [Field.value?_self, Fields.get?_set_self, Option.some.injEq] at hj
  rw [Field.value?_self, Fields.get?_set_ne hkey] at hspec
  obtain ⟨e, he⟩ := parse_set_metadata (by rw [hspec]; rfl : (Fields.get? "spec" fields).isSome)
  rw [he old _ (hj ▸ hold)] at h
  rw [he new m hm]
  cases e with
  | error fault => simp [Except.map] at h
  | ok u =>
    simp only [Except.map, Except.ok.injEq] at h ⊢
    rw [← h]

theorem Json.setMetadata_obj {fields : Fields} {md : Json}
    (h : Fields.get? "metadata" fields = some md) (key : String) (v : Json) :
    (Json.obj fields).setMetadata key v = .obj (Fields.set "metadata" (md.set key v) fields) := by
  simp [setMetadata, h, ofOption]

/-- The metadata that are read of a body are read of what stands in their place. -/
theorem metadata_eq_accepted {fields : Fields} {md : Json} {m : Metadata}
    (h : metadataOf (.obj (Fields.set "metadata" md fields)) = .ok m) :
    metadata md = .accepted m := by
  obtain ⟨_, _, hobj, hget, ha⟩ := metadataOf_eq_ok.1 h
  rw [← Json.obj.inj hobj, Fields.get?_set_self, Option.some.injEq] at hget
  exact model_eq_accepted.2 ⟨_, hget, ha⟩

theorem parse_setMetadata {body : Json} {t : Declaration} (h : Declaration.parse body = .ok t)
    {key : String} {v : Json} {m : Metadata}
    (hm : metadataOf (body.setMetadata key v) = .ok m) :
    Declaration.parse (body.setMetadata key v) = .ok { t with metadata := m } := by
  obtain ⟨fields, md, rfl, hg, -⟩ := metadataOf_eq_ok.1 (metadataOf_of_parse h)
  rw [Json.setMetadata_obj hg] at hm ⊢
  rw [← Fields.set_of_get? hg] at h
  exact parse_swap_metadata h (metadata_eq_accepted hm)

/-- A body was valid before a field of its metadata was set if it is after. -/
theorem parse_of_parse_setMetadata {body : Json} {m : Metadata} (hm : metadataOf body = .ok m)
    {key : String} {v : Json} {t : Declaration}
    (h : Declaration.parse (body.setMetadata key v) = .ok t) :
    Declaration.parse body = .ok { t with metadata := m } := by
  obtain ⟨fields, md, rfl, hg, ha⟩ := metadataOf_eq_ok.1 hm
  rw [Json.setMetadata_obj hg] at h
  have hnew := parse_swap_metadata h (model_eq_accepted.2 ⟨md, rfl, ha⟩)
  rwa [Fields.set_of_get? hg] at hnew

/-- A declaration stays as it is whatever its status. -/
theorem parse_set_status {body : Json} {t : Declaration} (h : Declaration.parse body = .ok t)
    (v : Json) : Declaration.parse (body.set "status" v) = .ok t := by
  obtain ⟨fields, rfl, ha⟩ := parse_eq_ok.1 h
  obtain ⟨happ, hkind, hmd, hspec⟩ := declarationFields_eq_accepted.1 ha
  have hthere : ∀ {α : Type} {key : String} {r : Reader α} {a : α},
      Field.required ⟨key, key⟩ r fields = .accepted a →
      ((⟨key, key⟩ : Field).value? fields).isSome = true := by
    intro α key r a hr
    obtain ⟨j, hj, -⟩ := Field.required_eq_accepted.1 hr
    rw [hj]
    rfl
  refine parse_eq_ok.2 ⟨_, rfl, declarationFields_eq_accepted.2 ⟨?_, ?_, ?_, ?_⟩⟩
  · rw [Field.optional_set (by decide) (by decide), happ]
  · rw [Field.optional_set (by decide) (by decide), hkind]
  · rw [Field.required_set (by decide) (by decide) _ _ (hthere hmd), hmd]
  · rw [Field.required_set (by decide) (by decide) _ _ (hthere hspec), hspec]

/-! ## Valid bodies -/

/-- A valid body with no more than what is required. -/
def plainTenant (name : String) : Json :=
  .obj [("metadata", .obj [("name", .str name)]),
    ("spec", .obj [("hostname", .str (name ++ ".example")), ("image", .str "moodle"),
      ("storage", .obj [("size", .str "1Gi")]),
      ("databaseRef", .obj [("host", .str "db"), ("adminSecret", .str "db-admin"),
        ("name", .str name), ("user", .str name), ("password", .str "secret")])])]

/-- A body that makes use of what readers are lenient about, with a key beside its declaration. -/
def lenientTenant : Json :=
  .obj [("metadata", .obj [("name", .str "a"), ("uid", .null), ("generation", .bool true)]),
    ("spec", .obj [("hostname", .str "a.example"), ("image", .str "moodle"),
      ("storage", .obj [("size", .int 5)]),
      ("autoscaling", .obj [("enabled", .str "Yes"), ("min_replicas", .str "03")]),
      ("database", .obj [("host", .str "db"), ("admin_secret", .str "db-admin"),
        ("name", .str "a"), ("user", .str "a"), ("password", .str "secret")])]),
    ("status", .obj [])]

end MoodleTenancy
