import MoodleTenancy.Proofs.Agreement
import MoodleTenancy.Proofs.Shown
import MoodleTenancy.Proofs.TwoRuns

/-!
# Specs in disguise

The values by which a database is reached are for a tenant's secret alone. A spec may stand in for
another one that differs in these values, as long as reports show the same of both: then handlers
answer, log, call and report the same, and leave clusters that differ in such specs and in secrets
made of them.

* `Declaration.concealed`: a declaration without these values.
* `Disguise`: a spec that stands in for another one.
* `Disguise.Bodies`, `Disguise.Manifests`, `Disguise.Clusters`, `Disguise.Results`: what may differ.
* `Disguise.Bodies.parse`: declarations read of bodies.
* `Disguise.build_related`: objects made of declarations.
-/

namespace MoodleTenancy
set_option autoImplicit false

open Validation

/-! ## Declarations without credentials -/

/-- A spec without the values by which the database is reached. -/
def Spec.concealed (s : Spec) : Spec :=
  { s with database := ⟨"", s.database.adminSecret, "", "", ""⟩ }

def Declaration.concealed (t : Declaration) : Declaration := { t with spec := t.spec.concealed }

section Concealed

variable {s : Settings} {t t' : Declaration} (h : t'.concealed = t.concealed)
include h

/-- What is made without credentials is the same for both. -/
theorem Declaration.eq_of_concealed {α : Type} {f : Declaration → α}
    (hf : ∀ t, f t.concealed = f t) : f t' = f t := by
  rw [← hf t', h, hf t]

theorem Declaration.url_of_concealed : t'.url = t.url :=
  eq_of_concealed h fun _ => rfl

theorem Component.isNeeded_of_concealed (p : Component) : p.isNeeded t' = p.isNeeded t :=
  Declaration.eq_of_concealed h fun _ => rfl

theorem Child.space_of_concealed : Child.space s t' = Child.space s t :=
  Declaration.eq_of_concealed h fun _ => rfl

theorem Owner.of_concealed : Owner.of t' = Owner.of t :=
  Declaration.eq_of_concealed h fun _ => rfl

/-- Only the secret is made of credentials. -/
theorem Component.child_of_concealed {p : Component} (hp : p ≠ .secret) (o : Owner)
    (ns : Option String) : p.child s t' o ns = p.child s t o ns := by
  refine Declaration.eq_of_concealed (f := fun t => p.child s t o ns) h fun t => ?_
  cases p with
  | secret => exact absurd rfl hp
  | _ => rfl

/-- Secrets of both go by the same key. -/
theorem Child.key_secret_of_concealed (o : Owner) (ns : Option String) :
    (Child.secret t' o ns).key = (Child.secret t o ns).key :=
  Declaration.eq_of_concealed (f := fun t => (Child.secret t o ns).key) h fun _ => rfl

end Concealed

/-! ## Disguises -/

/-- A spec that stands in for another one of some tenants: reports show the same of both, and what
is read of them agrees but for credentials. -/
structure Disguise where
  /-- The tenants that may have the one or the other. -/
  tenants : TenantKey → Prop
  spec : Json
  disguised : Json
  /-- How what is read of them may differ. -/
  Reads : Spec → Spec → Prop
  refl (a : Spec) : Reads a a
  concealed {a b : Spec} : Reads a b → b.concealed = a.concealed
  reads : Checked.Rel Reads (Validation.spec spec) (Validation.spec disguised)

namespace Disguise

variable (D : Disguise)

/-- The same body, or one with the spec in disguise, of a tenant that may have it. -/
inductive Bodies : Json → Json → Prop where
  | same (b : Json) : Bodies b b
  | disguised {b : Json} (hs : b.get? "spec" = some D.spec)
    (hn : ∀ name key, b.metadatum "name" = some name → TenantKey.of name = .ok key →
      D.tenants key) : Bodies b (b.set "spec" D.disguised)

/-- Declarations that are read of such bodies. -/
structure Declarations (t t' : Declaration) : Prop where
  outer : t' = { t with spec := t'.spec }
  inner : D.Reads t.spec t'.spec

/-- The same object, or secrets of such declarations. -/
inductive Manifests : Manifest → Manifest → Prop where
  | same (m : Manifest) : Manifests m m
  | secret {t t' : Declaration} (h : D.Declarations t t') (o : Owner) (ns : Option String) :
    Manifests (Child.secret t o ns).manifest (Child.secret t' o ns).manifest

/-- Clusters that differ in such bodies and such objects at most. -/
structure Clusters (c c' : MemoryCluster) : Prop where
  failures : c'.failures = c.failures
  calls : c'.calls = c.calls
  patches : c'.patches = c.patches
  nextVersion : c'.nextVersion = c.nextVersion
  objects (k : ObjectKey) : Option.Rel D.Manifests (c.objects.get? k) (c'.objects.get? k)
  tenants (key : TenantKey) : SameTenant D.Bodies (c.tenants.get? key) (c'.tenants.get? key)
  others {key : TenantKey} : ¬ D.tenants key → c'.tenants.get? key = c.tenants.get? key

/-- Results of passes for such bodies. -/
structure Results (r r' : PassResult) : Prop where
  outcome : r'.outcome = r.outcome
  name : r'.name = r.name
  body : Option.Rel D.Bodies r.body r'.body
  url : r'.url = r.url
  namespaceCreated : r'.namespaceCreated = r.namespaceCreated
  created : r'.created = r.created
  faultText : r'.faultText = r.faultText
  requeueAfter : r'.requeueAfter = r.requeueAfter

variable {D}

/-! ## Bodies -/

namespace Bodies

variable {b b' : Json}

theorem get?_eq (h : D.Bodies b b') {key : String} (hk : key ≠ "spec") :
    b'.get? key = b.get? key := by
  have hne : (Key.text "spec").identity ≠ (Key.text key).identity := by simpa using hk.symm
  cases h with
  | same => rfl
  | disguised hs hn => exact Json.get?_set_ne hne _ _

theorem eq_or_set (h : D.Bodies b b') :
    b' = b ∨ b.get? "spec" = some D.spec ∧ b' = b.set "spec" D.disguised := by
  cases h with
  | same => exact .inl rfl
  | disguised hs hn => exact .inr ⟨hs, rfl⟩

/-- Both have fields, or they are the same. -/
theorem cases_obj (h : D.Bodies b b') :
    b' = b ∨ ∃ fields fields', b = .obj fields ∧ b' = .obj fields' := by
  cases h with
  | same => exact .inl rfl
  | disguised hs hn =>
    cases b with
    | obj fields => exact .inr ⟨fields, _, rfl, rfl⟩
    | _ => exact absurd hs (by simp [Json.get?])

theorem entry_eq (h : D.Bodies b b') {key : String} (hk : key ≠ "spec") :
    b'.entry key = b.entry key := by
  have hget := h.get?_eq hk
  obtain rfl | ⟨fields, fields', rfl, rfl⟩ := h.cases_obj
  · rfl
  · rw [Json.get?_obj, Json.get?_obj] at hget
    rw [Json.entry, Json.entry, hget]

theorem field_eq (h : D.Bodies b b') {key : String} (hk : key ≠ "spec") :
    b'.field key = b.field key := by
  have hget := h.get?_eq hk
  obtain rfl | ⟨fields, fields', rfl, rfl⟩ := h.cases_obj
  · rfl
  · rw [Json.get?_obj, Json.get?_obj] at hget
    rw [Json.field_obj, Json.field_obj, hget]

/-- What is set beside the spec leaves such bodies if it does not rename the tenant. -/
theorem set (h : D.Bodies b b') {key : String} (hk : key ≠ "spec") (v : Json)
    (hname : (b.set key v).metadatum "name" = b.metadatum "name") :
    D.Bodies (b.set key v) (b'.set key v) := by
  have hne : (Key.text key).identity ≠ (Key.text "spec").identity := by simpa using hk
  cases h with
  | same => exact .same _
  | disguised hs hn =>
    cases b with
    | obj fields =>
      have hcomm : ((Json.obj fields).set "spec" D.disguised).set key v =
          ((Json.obj fields).set key v).set "spec" D.disguised :=
        congrArg Json.obj (Fields.set_comm hne.symm _ _ (by rw [← Json.get?_obj, hs]; rfl))
      rw [hcomm]
      refine .disguised (by rw [Json.get?_set_ne hne, hs]) ?_
      rw [hname]
      exact hn
    | _ => exact absurd hs (by simp [Json.get?])

theorem set_status (h : D.Bodies b b') (v : Json) :
    D.Bodies (b.set "status" v) (b'.set "status" v) := by
  refine h.set (by decide) v ?_
  rw [Json.metadatum, Json.metadatum, Json.get?_set_ne (by decide)]

theorem setMetadata (h : D.Bodies b b') {k : String} (hk : k ≠ "name") (v : Json) :
    D.Bodies (b.setMetadata k v) (b'.setMetadata k v) := by
  have hmd : Json.ofOption (b'.get? "metadata") = Json.ofOption (b.get? "metadata") := by
    rw [h.get?_eq (by decide)]
  rw [Json.setMetadata, Json.setMetadata, hmd]
  exact h.set (by decide) _ (metadatum_setMetadata_ne hk b v)

theorem toOption (h : D.Bodies b b') : Option.Rel D.Bodies b.toOption b'.toOption := by
  obtain rfl | ⟨fields, fields', rfl, rfl⟩ := h.cases_obj
  · cases b'.toOption with
    | none => exact .none
    | some j => exact .some (.same j)
  · exact .some h

/-- Bodies of a tenant that is not to differ are the same. -/
theorem eq_of_not (h : D.Bodies b b') {name : Json} {key : TenantKey}
    (hn : b.metadatum "name" = some name) (hkey : TenantKey.of name = .ok key)
    (hd : ¬ D.tenants key) : b' = b := by
  cases h with
  | same => rfl
  | disguised hs hall => exact absurd (hall name key hn hkey) hd

theorem stage_eq (h : D.Bodies b b') (op : Operator) : op.stage b' = op.stage b := by
  rw [Operator.stage, Operator.stage, h.entry_eq (by decide)]

/-- What is read of such bodies agrees but for credentials, and so do the reports on them. -/
theorem parse (h : D.Bodies b b') (hm : (b.get? "metadata").isSome = true) :
    (∃ t t', Declaration.parse b = .ok t ∧ Declaration.parse b' = .ok t' ∧
        D.Declarations t t') ∨
      ∃ f f', Declaration.parse b = .error f ∧ Declaration.parse b' = .error f' ∧
        f'.message = f.message := by
  cases h with
  | same =>
    cases Declaration.parse b with
    | ok t => exact .inl ⟨t, t, rfl, rfl, rfl, D.refl _⟩
    | error f => exact .inr ⟨f, f, rfl, rfl, rfl⟩
  | disguised hs hn =>
    cases b with
    | obj fields =>
      rw [Json.get?_obj] at hs hm
      have hmd : (⟨"metadata", "metadata"⟩ : Validation.Field).find? fields ≠ none := by
        intro hnone
        have hvalue := Field.value?_self "metadata" fields
        rw [Field.value?, hnone] at hvalue
        rw [← hvalue] at hm
        exact absurd hm Bool.false_ne_true
      have hread : Checked.Rel D.Declarations (declarationFields fields)
          (declarationFields (Fields.set "spec" D.disguised fields)) := by
        refine .and (.and (.and (.map ?_ (Field.optional_set_rel ?_ ?_ _ _ _ _))
          (Field.optional_set_rel ?_ ?_ _ _ _ _)) (Field.required_set_rel ?_ ?_ _ ?_))
          (Field.required_set_self_rel rfl hs D.reads)
        · rintro api _ rfl kind _ rfl m _ rfl a b hab
          exact ⟨rfl, hab⟩
        case refine_8 => exact fun hnone => absurd hnone hmd
        all_goals decide
      have hparse : ∀ fields, Declaration.parse (.obj fields) =
          ((declarationFields fields).report "TenantDeclaration").mapError Fault.invalid :=
        fun _ => rfl
      rw [Json.set_obj, hparse, hparse]
      obtain ⟨t, t', ht, ht', htt⟩ | ⟨r, r', hr, hr', htext⟩ := hread.report "TenantDeclaration"
      · rw [ht, ht']
        exact .inl ⟨t, t', rfl, rfl, htt⟩
      · rw [hr, hr']
        exact .inr ⟨_, _, rfl, rfl, htext⟩
    | _ => exact absurd hs (by simp [Json.get?])

end Bodies

/-! ## Objects -/

theorem Declarations.eq {t t' : Declaration} (h : D.Declarations t t') :
    t'.concealed = t.concealed := by
  rw [h.outer]
  exact congrArg (fun a => { t with spec := a }) (D.concealed h.inner)

theorem Manifests.key_eq {m m' : Manifest} (h : D.Manifests m m') : m'.key = m.key := by
  cases h with
  | same => rfl
  | secret h o ns => exact Child.key_secret_of_concealed h.eq o ns

theorem Manifests.label_eq {c c' : Child} (h : D.Manifests c.manifest c'.manifest) :
    c'.label = c.label :=
  congrArg (fun k : ObjectKey => k.kind.name ++ "/" ++ k.name) h.key_eq

/-- The objects of a component are the same, or secrets. -/
theorem build_related {t t' : Declaration} (h : D.Declarations t t') (s : Settings)
    (ns : Option String) (p : Component) :
    Except.Rel (fun c c' : Child => D.Manifests c.manifest c'.manifest) (p.build s t ns)
      (p.build s t' ns) := by
  rw [Component.build, Component.build, Owner.of_concealed h.eq]
  cases Owner.of t with
  | error fault => exact .error fault
  | ok o =>
    refine .ok (?_ : D.Manifests (p.child s t o ns).manifest (p.child s t' o ns).manifest)
    by_cases hp : p = .secret
    · subst hp
      exact .secret h o ns
    · rw [Component.child_of_concealed h.eq hp]
      exact .same _

end Disguise
end MoodleTenancy
