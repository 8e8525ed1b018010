import MoodleTenancy.Proofs.Housing

/-!
# What belongs to a tenant

A tenant has its namespace, the objects in it and what is stored under its name. A pass for one
tenant changes nothing else.

* `ObjectKey.BelongsTo`: an object belongs to a tenant.
* `MemoryCluster.SelfNamed`: tenants are kept under the names in their metadata.
* `Spares`: what does not belong to a tenant stays as it is.
* `Reconciles.spares`: passes spare what belongs to others.
-/

namespace MoodleTenancy
set_option autoImplicit false

/-! ## Objects and tenants -/

/-- The object under the key is the namespace of a tenant or lies in it. -/
def ObjectKey.BelongsTo (s : Settings) (n : String) (k : ObjectKey) : Prop :=
  k = Names.spaceKey s n ∨ k.namespaceName = some (Names.space s n)

theorem ObjectKey.BelongsTo.unique {s : Settings} {a b : String} {k : ObjectKey}
    (ha : k.BelongsTo s a) (hb : k.BelongsTo s b) : a = b := by
  obtain rfl | ha := ha
  · obtain hb | hb := hb
    · exact Names.spaceKey_inj hb
    · exact absurd hb (by simp [Names.spaceKey])
  · obtain rfl | hb := hb
    · exact absurd ha (by simp [Names.spaceKey])
    · exact Names.space_inj (Option.some.inj (ha.symm.trans hb))

theorem Component.belongsTo_of_build {s : Settings} {t : Declaration} {n : String} {p : Component}
    {child : Child} (h : p.build s t (some (Names.space s n)) = .ok child) :
    child.manifest.key.BelongsTo s n := by
  rw [show child.manifest.key = _ from key_of_build h]
  exact .inr rfl

/-- Every tenant is kept under the name in its metadata. -/
def MemoryCluster.SelfNamed (c : MemoryCluster) : Prop :=
  ∀ key kept, c.tenants.get? key = some kept →
    ∃ name, kept.body.metadatum "name" = some name ∧ TenantKey.of name = .ok key

/-- If a tenant is kept under the name, this is the name in its metadata. -/
def MemoryCluster.KnowsAs (c : MemoryCluster) (n : String) : Prop :=
  ∀ kept m, c.tenants.get? (.text n) = some kept → metadataOf kept.body = .ok m → m.name = n

theorem MemoryCluster.selfNamed_empty : SelfNamed {} := fun _ _ h => absurd h (by simp)

/-- Tenants that come in are kept under their names. -/
theorem MemoryCluster.SelfNamed.enrol {c : MemoryCluster} (h : c.SelfNamed) {n : String}
    {body : Json} (hn : body.metadatum "name" = some (.str n)) :
    ((MemoryCluster.enrol body).run c).2.SelfNamed := by
  obtain ⟨stored, hstored, hrun⟩ := c.run_enrol hn
  rw [hrun]
  intro key kept hk
  rw [Table.get?_insert] at hk
  split at hk
  · rename_i hkey
    obtain rfl := Option.some.inj hk
    exact ⟨.str n, hstored, congrArg Except.ok hkey⟩
  · exact h key kept hk

theorem MemoryCluster.SelfNamed.joinedBy {c : MemoryCluster} (h : c.SelfNamed)
    {bodies : List Json} (hn : ∀ body ∈ bodies, ∃ n, body.metadatum "name" = some (.str n)) :
    (c.joinedBy bodies).SelfNamed := by
  induction bodies generalizing c with
  | nil => exact h
  | cons body rest ih =>
    obtain ⟨hbody, hrest⟩ := List.forall_mem_cons.1 hn
    obtain ⟨n, hname⟩ := hbody
    exact ih (h.enrol hname) hrest

theorem Table.mem_of_get? {κ ν : Type} [DecidableEq κ] {k : κ} {v : ν} {t : Table κ ν}
    (h : t.get? k = some v) : (k, v) ∈ t := by
  induction t with
  | nil => exact absurd h (by simp)
  | cons e rest ih =>
    obtain ⟨l, u⟩ := e
    rw [get?_cons] at h
    by_cases hl : l = k
    · rw [if_pos hl, Option.some.injEq] at h
      rw [hl, h]
      exact List.mem_cons_self
    · rw [if_neg hl] at h
      exact List.mem_cons_of_mem _ (ih h)

theorem MemoryCluster.selfNamed_of_all {c : MemoryCluster}
    (h : c.tenants.all (fun e => (e.2.body.metadatum "name").any
      fun name => (TenantKey.of name).toOption = some e.1) = true) : c.SelfNamed := by
  intro key kept hk
  have hentry := List.all_eq_true.1 h _ (Table.mem_of_get? hk)
  obtain ⟨name, hname, hkey⟩ := (Option.any_eq_true _ _).1 hentry
  exact ⟨name, hname, eq_ok_of_toOption (of_decide_eq_true hkey)⟩

theorem MemoryCluster.SelfNamed.knowsAs {c : MemoryCluster} (h : c.SelfNamed) (n : String) :
    c.KnowsAs n := by
  intro kept m hk hm
  obtain ⟨name, hname, hkey⟩ := h _ _ hk
  rw [metadatum_name hm, Option.some.injEq] at hname
  rw [← hname, TenantKey.of_str, Except.ok.injEq] at hkey
  exact Key.Identity.text.inj hkey

theorem MemoryCluster.KnowsAs.name_eq {c : MemoryCluster} {n : String} (h : c.KnowsAs n)
    {body : Json} (hb : Finds c (.str n) body) {m : Metadata} (hm : metadataOf body = .ok m) :
    m.name = n := by
  obtain ⟨kept, hk, rfl⟩ := hb.exists_kept
  exact h kept m hk hm

/-! ## What stays -/

/-- The second cluster has all that the first one has and that does not belong to the tenant, and
nothing else. -/
structure Spares (s : Settings) (n : String) (c d : MemoryCluster) : Prop where
  failures : d.failures = c.failures
  objects {k : ObjectKey} : ¬ k.BelongsTo s n → d.objects.get? k = c.objects.get? k
  tenants {key : TenantKey} : key ≠ .text n → d.tenants.get? key = c.tenants.get? key

namespace Spares

variable {s : Settings} {n : String} {c d e : MemoryCluster}

theorem refl (c : MemoryCluster) : Spares s n c c := ⟨rfl, fun _ => rfl, fun _ => rfl⟩

theorem trans (h : Spares s n c d) (h' : Spares s n d e) : Spares s n c e where
  failures := h'.failures.trans h.failures
  objects hk := (h'.objects hk).trans (h.objects hk)
  tenants hk := (h'.tenants hk).trans (h.tenants hk)

theorem noting (c : MemoryCluster) (call : Call) : Spares s n c (c.noting call) :=
  ⟨rfl, fun _ => rfl, fun _ => rfl⟩

theorem emptied (c : MemoryCluster) : Spares s n c (c.emptied (Names.spaceKey s n)) where
  failures := c.emptied_failures _
  objects {k} hk := by
    rw [c.get?_emptied, if_neg]
    rintro ⟨-, hself | ⟨-, hin⟩⟩
    · exact hk (.inl hself)
    · exact hk (.inr hin)
  tenants _ := by rw [c.emptied_tenants]

theorem knowsAs (h : Spares s n c d) {m : String} (hm : m ≠ n) (hc : c.KnowsAs m) :
    d.KnowsAs m := by
  intro kept md hk
  rw [h.tenants fun he => hm (Key.Identity.text.inj he)] at hk
  exact hc kept md hk

end Spares

/-! ## Parts of passes -/

section Passes

variable {s : Settings} {n : String} {c d : MemoryCluster}

theorem Supplies.spares {m : Manifest} {e : Except Fault Supplied} (h : Supplies m c e d)
    (hm : m.key.BelongsTo s n) : Spares s n c d where
  failures := h.failures_eq
  objects hk := h.get?_of_ne fun he => hk (he ▸ hm)
  tenants _ := by rw [h.tenants_eq]

theorem SuppliesAll.spares {t : Declaration} {ps : List Component} {r : Progress}
    (h : SuppliesAll s t (Names.space s n) ps c r d) : Spares s n c d := by
  induction h with
  | done => exact .refl _
  | skipped hp h ih => exact ih
  | unbuilt hp hb => exact .refl _
  | failed hp hb h => exact h.spares (Component.belongsTo_of_build hb)
  | present hp hb h hr ih => exact (h.spares (Component.belongsTo_of_build hb)).trans ih
  | created hp hb h hr ih => exact (h.spares (Component.belongsTo_of_build hb)).trans ih

theorem Maintains.spares {op : Operator} {r r' : PassResult} {body : Json}
    (h : Maintains op r body c r' d)
    (hn : ∀ t, Declaration.parse body = .ok t → t.identifier = n) :
    Spares op.settings n c d := by
  cases h with
  | invalid ht => exact .refl _
  | unopened ht h =>
    obtain rfl := hn _ ht
    exact h.spares (.inl rfl)
  | opened ht h =>
    obtain rfl := hn _ ht
    exact h.spares (.inl rfl)
  | supplied ht h hp =>
    obtain rfl := hn _ ht
    exact (h.spares (.inl rfl)).trans hp.spares

theorem Replaces.spares {sent : Json} {e : Except Fault Json} (h : Replaces n sent c e d) :
    Spares s n c d where
  failures := h.failures_eq
  objects _ := by rw [h.objects_eq]
  tenants hk := h.get?_of_ne hk

theorem CleansUp.spares {op : Operator} {body : Json} {m : Metadata} {e : Except Fault Json}
    (h : CleansUp op body m c e d) : Spares op.settings m.name c d := by
  cases h with
  | undeleted hf => exact .noting _ _
  | deleted hf h => exact ((Spares.noting _ _).trans (.emptied _)).trans h.spares

end Passes

theorem identifier_of_parse {body : Json} {m : Metadata} (hm : metadataOf body = .ok m)
    {t : Declaration} (ht : Declaration.parse body = .ok t) : t.identifier = m.name := by
  obtain rfl := Except.ok.inj (hm.symm.trans (metadataOf_of_parse ht))
  rfl

/-- A pass for one tenant spares what belongs to others. -/
theorem Reconciles.spares {op : Operator} {n : String} {c d : MemoryCluster} {r : PassResult}
    (h : Reconciles op (.str n) c r d) (hn : c.KnowsAs n) : Spares op.settings n c d := by
  have hnoted : Spares op.settings n c (c.noting (.readingTenant (.str n))) := .noting _ _
  cases h with
  | uncleaned hb hm hd hg hcl =>
    obtain rfl := hn.name_eq hb hm
    exact hnoted.trans hcl.spares
  | cleaned hb hm hd hg hcl =>
    obtain rfl := hn.name_eq hb hm
    exact hnoted.trans hcl.spares
  | guarded hb hm hd hg hmt =>
    obtain rfl := hn.name_eq hb hm
    exact hnoted.trans (hmt.spares fun t ht => identifier_of_parse hm ht)
  | unguarded hb hm hd hg hrep =>
    obtain rfl := hn.name_eq hb hm
    exact hnoted.trans hrep.spares
  | newlyGuarded hb hm hd hg hrep hmt =>
    obtain rfl := hn.name_eq hb hm
    obtain rfl := hrep.stored_eq
    refine (hnoted.trans hrep.spares).trans (hmt.spares fun t ht => ?_)
    exact identifier_of_parse (op.metadataOf_guarded hm _) ht
  | _ => exact hnoted

end MoodleTenancy
