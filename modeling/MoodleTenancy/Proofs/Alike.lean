import MoodleTenancy.Operator.Handlers
import MoodleTenancy.Proofs.Additions

/-!
# Up to versions

Which version a body gets depends on how many were given out before. Nothing that a pass does
depends on it, but a report on a body without a spec quotes the body with the version in it.

* `Json.Alike`: bodies that differ in their versions at most.
* `Json.Alike.parse`: what is read of such bodies.
* `Fault.Alike`, `PassResult.Alike`: faults that quote such bodies, and results of passes for them.
* `PassResult.Alike.patch_eq`: the patch that follows from such results.
-/

namespace MoodleTenancy
set_option autoImplicit false

open Validation

/-! ## Fields set in any order -/

theorem Fields.set_comm {α : Type} {key k : Key} (h : k.identity ≠ key.identity) (u v : α)
    {fields : List (Key × α)} (hk : (get? k fields).isSome = true) :
    set key v (set k u fields) = set k u (set key v fields) := by
  induction fields with
  | nil => simp at hk
  | cons f rest ih =>
    obtain ⟨l, w⟩ := f
    rw [get?_cons] at hk
    by_cases hl : l.identity = k.identity
    · simp [set, hl, h]
    · rw [if_neg hl] at hk
      by_cases hkey : l.identity = key.identity
      · simp [set, hkey, Ne.symm h]
      · simp [set, hkey, hl, ih hk]

/-! ## Bodies -/

section WithVersion

variable {b : Json} {m : Metadata} (h : metadataOf b = .ok m) (v : Json)
include h

theorem Json.field_withVersion {key : String} (hk : key ≠ "metadata") :
    (b.withVersion v).field key = b.field key := by
  have hne : (Key.text "metadata").identity ≠ (Key.text key).identity := by simpa using hk.symm
  obtain ⟨fields, md, rfl, hg, -⟩ := metadataOf_eq_ok.1 h
  rw [withVersion, setMetadata_obj hg, field_obj, field_obj, Fields.get?_set_ne hne]

theorem Json.set_withVersion {key : String} (hk : key ≠ "metadata") (w : Json) :
    (b.withVersion v).set key w = (b.set key w).withVersion v := by
  have hne : (Key.text "metadata").identity ≠ (Key.text key).identity := by simpa using hk.symm
  obtain ⟨fields, md, rfl, hg, -⟩ := metadataOf_eq_ok.1 h
  have hg' : Fields.get? "metadata" (Fields.set key w fields) = some (.obj md) := by
    rw [Fields.get?_set_ne hne.symm, hg]
  have hcomm := Fields.set_comm hne ((obj md).set "resourceVersion" v) w
    (by rw [hg]; rfl : (Fields.get? "metadata" fields).isSome = true)
  calc ((obj fields).withVersion v).set key w
      = .obj (Fields.set key w (Fields.set "metadata" ((obj md).set "resourceVersion" v) fields)) := by
        rw [withVersion, setMetadata_obj hg, set_obj]
    _ = .obj (Fields.set "metadata" ((obj md).set "resourceVersion" v) (Fields.set key w fields)) :=
        congrArg _ hcomm
    _ = (obj (Fields.set key w fields)).withVersion v := by rw [withVersion, setMetadata_obj hg']

end WithVersion

/-- Bodies that differ in their versions at most. -/
inductive Json.Alike : Json → Json → Prop where
  | refl (b : Json) : Alike b b
  | versions {b : Json} {m : Metadata} (h : metadataOf b = .ok m) (u v : String) :
    Alike (b.withVersion (.str u)) (b.withVersion (.str v))

namespace Json.Alike

variable {b b' : Json}

theorem symm (h : Alike b b') : Alike b' b := by
  cases h with
  | refl => exact .refl _
  | versions h u v => exact .versions h v u

theorem toOption (h : Alike b b') : Option.Rel Alike b.toOption b'.toOption := by
  cases h with
  | refl =>
    cases b.toOption with
    | none => exact .none
    | some j => exact .some (.refl j)
  | versions h u v =>
    have hv := Json.Alike.versions h u v
    obtain ⟨fields, md, rfl, hg, -⟩ := metadataOf_eq_ok.1 h
    rw [withVersion, withVersion, setMetadata_obj hg, setMetadata_obj hg] at hv ⊢
    exact .some hv

theorem get?_eq (h : Alike b b') {key : String} (hk : key ≠ "metadata") :
    b'.get? key = b.get? key := by
  cases h with
  | refl => rfl
  | versions h u v => rw [withVersion, withVersion, get?_setMetadata_ne hk, get?_setMetadata_ne hk]

theorem set (h : Alike b b') {key : String} (hk : key ≠ "metadata") (w : Json) :
    Alike (b.set key w) (b'.set key w) := by
  cases h with
  | refl => exact .refl _
  | versions h u v =>
    rw [set_withVersion h _ hk, set_withVersion h _ hk]
    exact .versions ((metadataOf_set_ne hk _ _).trans h) u v

end Json.Alike

/-! ## Declarations -/

def Declaration.unversioned (t : Declaration) : Declaration :=
  t.renewed t.metadata.finalizers none

theorem Declaration.eq_renewed {t t' : Declaration} (h : t'.unversioned = t.unversioned) :
    t' = t.renewed t'.metadata.finalizers t'.metadata.resourceVersion := by
  obtain ⟨api, kind, m, spec⟩ := t
  obtain ⟨api', kind', m', spec'⟩ := t'
  obtain ⟨name, uid, version, generation, finalizers, deletion⟩ := m
  obtain ⟨name', uid', version', generation', finalizers', deletion'⟩ := m'
  simp only [unversioned, renewed, mk.injEq, Metadata.mk.injEq] at h ⊢
  simp [h]

/-- A fault, or one that quotes another version of a body. -/
inductive Fault.Alike : Fault → Fault → Prop where
  | refl (fault : Fault) : Alike fault fault
  | quoting {title : String} {issues : List Issue} {complaint : Complaint}
    {path : List Validation.Step} {b b' : Json} (h : b.Alike b') :
    Alike (.invalid ⟨title, issues ++ [⟨complaint, path, .json b⟩]⟩)
      (.invalid ⟨title, issues ++ [⟨complaint, path, .json b'⟩]⟩)

/-- A body is as valid as one with another version. If it has no spec, the report quotes it. -/
theorem Json.Alike.parse {b b' : Json} (h : b.Alike b') :
    (∃ t t', Declaration.parse b = .ok t ∧ Declaration.parse b' = .ok t' ∧
        t'.unversioned = t.unversioned) ∨
      ∃ f f', Declaration.parse b = .error f ∧ Declaration.parse b' = .error f' ∧ f.Alike f' ∧
        (b' = b ∨ (b.get? "spec").isSome = true → f' = f) := by
  cases h with
  | refl =>
    cases hp : Declaration.parse b with
    | ok t => exact .inl ⟨t, t, rfl, rfl, rfl⟩
    | error f => exact .inr ⟨f, f, rfl, rfl, .refl _, fun _ => rfl⟩
  | @versions b m h u v =>
    have hu := metadataOf_withVersion h u
    have hv := metadataOf_withVersion h v
    obtain ⟨fields, md, rfl, hg, -⟩ := metadataOf_eq_ok.1 h
    rw [withVersion, setMetadata_obj hg] at hu hv ⊢
    rw [withVersion, setMetadata_obj hg]
    have hau := metadata_eq_accepted hu
    have hav := metadata_eq_accepted hv
    cases hs : Fields.get? "spec" fields with
    | some spec =>
      obtain ⟨e, he⟩ := parse_set_metadata (by rw [hs]; rfl : (Fields.get? "spec" fields).isSome)
      rw [he _ _ hau, he _ _ hav]
      cases e with
      | ok t => exact .inl ⟨_, _, rfl, rfl, rfl⟩
      | error f => exact .inr ⟨f, f, rfl, rfl, .refl f, fun _ => rfl⟩
    | none =>
      have hkey : (Key.text "metadata").identity ≠ (Key.text "spec").identity := by decide
      obtain ⟨issues, he⟩ := parse_set_metadata_of_no_spec hs
      have halike := Json.Alike.versions h u v
      rw [withVersion, withVersion, setMetadata_obj hg, setMetadata_obj hg] at halike
      refine .inr ⟨_, _, he _ _ hau, he _ _ hav, .quoting halike, ?_⟩
      rintro (heq | hspec)
      · rw [heq]
      · rw [get?_obj, Fields.get?_set_ne hkey, hs] at hspec
        exact absurd hspec Bool.false_ne_true

/-! ## Results of passes -/

/-- Results for bodies that differ in their versions at most. The faults may quote them. -/
structure PassResult.Alike (r r' : PassResult) : Prop where
  outcome : r'.outcome = r.outcome
  name : r'.name = r.name
  body : Option.Rel Json.Alike r.body r'.body
  declaration : r'.declaration.map Declaration.unversioned =
    r.declaration.map Declaration.unversioned
  namespaceCreated : r'.namespaceCreated = r.namespaceCreated
  created : r'.created = r.created
  fault : Option.Rel Fault.Alike r.fault r'.fault
  requeueAfter : r'.requeueAfter = r.requeueAfter

namespace PassResult

theorem statusFields_withVersion {b : Json} {m : Metadata} (h : metadataOf b = .ok m)
    (s : Settings) (now : Time.Instant) (r : PassResult) (v previous : Json) :
    r.statusFields s now (b.withVersion v) previous = r.statusFields s now b previous := by
  have hne : (Key.text "resourceVersion").identity ≠ (Key.text "generation").identity := by decide
  obtain ⟨fields, md, rfl, hg, -⟩ := metadataOf_eq_ok.1 h
  have hold : (Json.obj fields).entry "metadata" = .ok (.obj md) := Json.entry_eq_ok.2 hg
  have hnew : ((Json.obj fields).withVersion v).entry "metadata" =
      .ok (.obj (Fields.set "resourceVersion" v md)) :=
    Json.entry_eq_ok.2 (Json.get?_metadata_setMetadata hg _ _)
  simp only [statusFields, hold, hnew, bind, Except.bind, Json.field_obj, Fields.get?_set_ne hne]

namespace Alike

variable {r r' : PassResult}

/-- What is seen of the tenant may differ in its version. -/
theorem seen (r : PassResult) {body body' : Option Json} (hb : Option.Rel Json.Alike body body')
    {t t' : Option Declaration}
    (ht : t'.map Declaration.unversioned = t.map Declaration.unversioned) :
    Alike { r with body := body, declaration := t } { r with body := body', declaration := t' } where
  outcome := rfl
  name := rfl
  body := hb
  declaration := ht
  namespaceCreated := rfl
  created := rfl
  fault := by
    cases r.fault with
    | none => exact .none
    | some fault => exact .some (.refl fault)
  requeueAfter := rfl

theorem refl (r : PassResult) : Alike r r := by
  have hbody : Option.Rel Json.Alike r.body r.body := by
    cases r.body with
    | none => exact .none
    | some b => exact .some (.refl b)
  have hdeclaration : r.declaration.map Declaration.unversioned =
      r.declaration.map Declaration.unversioned := rfl
  exact seen r hbody hdeclaration

theorem aborted (h : r.Alike r') {f f' : Fault} (hf : f.Alike f') :
    (r.aborted f).Alike (r'.aborted f') :=
  ⟨rfl, h.name, h.body, h.declaration, h.namespaceCreated, h.created, .some hf, h.requeueAfter⟩

theorem opened (h : r.Alike r') (op : Operator) : (r.opened op).Alike (r'.opened op) :=
  ⟨rfl, h.name, h.body, h.declaration, rfl, h.created, h.fault, rfl⟩

theorem supplied (h : r.Alike r') (p : Progress) : (r.supplied p).Alike (r'.supplied p) := by
  have hcreated : Alike { r with created := p.created } { r' with created := p.created } :=
    ⟨h.outcome, h.name, h.body, h.declaration, h.namespaceCreated, rfl, h.fault, h.requeueAfter⟩
  simp only [PassResult.supplied]
  cases p.fault with
  | none => exact hcreated
  | some fault => exact hcreated.aborted (.refl fault)

theorem url_eq (h : r.Alike r') : r'.url = r.url := by
  have hd := congrArg (Option.map Declaration.url) h.declaration
  rw [Option.map_map, Option.map_map] at hd
  exact hd

theorem statusFields_eq (h : r.Alike r') (hf : r'.fault = r.fault) (s : Settings)
    (now : Time.Instant) (body previous : Json) :
    r'.statusFields s now body previous = r.statusFields s now body previous := by
  simp only [statusFields, report, namespaceEvents, label, faultText, h.url_eq, h.outcome, h.name,
    h.namespaceCreated, h.created, hf]

/-- What is written into the status does not depend on versions, unless a fault quotes one. -/
theorem patch_eq (h : r.Alike r') (hf : r'.fault = r.fault) (s : Settings) (now : Time.Instant) :
    r'.patch s now = r.patch s now := by
  have hbody := h.body
  simp only [patch]
  generalize r.body = old at hbody ⊢
  generalize r'.body = new at hbody ⊢
  cases hbody with
  | none => rfl
  | some hb =>
    simp only [h.statusFields_eq hf]
    cases hb with
    | refl => rfl
    | versions hm u v =>
      simp only [Json.field_withVersion hm _ (by decide : "status" ≠ "metadata"),
        statusFields_withVersion hm]

end Alike
end PassResult

end MoodleTenancy
