import MoodleTenancy.Proofs.Additions

/-!
# Namespaces and their tenants

No namespace is without a guarded tenant, and no object in a namespace is without it. Calls of the
operator keep it so, in whatever order they are made and wherever they fail, and so does what may
happen to a cluster from outside.

* `Housed`: tenants are kept under their names, namespaces have guarded tenants, and other objects
  have namespaces.
* `Housed.keeper`, `Housed.apart`: the tenant of a namespace, and a tenant that has none.
* `SameMetadata`: a cluster has the same objects as another one, and tenants with the same metadata.
* `Housed.emptied`, `Housed.adds`, `Housed.replaces`: deletions, creations and replacements.
* `Reconciles.housed`: passes.
-/

namespace MoodleTenancy
set_option autoImplicit false

/-! ## Names of namespaces -/

theorem Names.space_inj {s : Settings} {a b : String} (h : space s a = space s b) : a = b :=
  (String.append_right_inj _).1 h

theorem Names.spaceKey_inj {s : Settings} {a b : String} (h : spaceKey s a = spaceKey s b) :
    a = b := by
  rw [spaceKey, spaceKey, ObjectKey.mk.injEq] at h
  exact space_inj h.2.2

/-! ## The invariant -/

structure Housed (s : Settings) (guard : String) (c : MemoryCluster) : Prop where
  /-- A tenant is kept under the name that its body gives. -/
  named {key : TenantKey} {kept : StoredTenant} : c.tenants.get? key = some kept →
    ∃ n, key = .text n ∧ kept.body.metadatum "name" = some (.str n)
  /-- A namespace is that of a guarded tenant. -/
  guarded {k : ObjectKey} {m : Manifest} : c.objects.get? k = some m → k.kind = .namespaceKind →
    ∃ n kept, k = Names.spaceKey s n ∧ c.tenants.get? (.text n) = some kept ∧
      IsGuarded guard kept.body
  /-- Any other object is in a namespace that exists. -/
  inside {k : ObjectKey} {m : Manifest} : c.objects.get? k = some m → k.kind ≠ .namespaceKind →
    ∃ x, k.namespaceName = some x ∧ (c.objects.get? ⟨.namespaceKind, none, x⟩).isSome = true

namespace Housed

variable {s : Settings} {guard : String} {c d : MemoryCluster}

theorem empty : Housed s guard {} :=
  ⟨fun h => absurd h (by simp), fun h => absurd h (by simp), fun h => absurd h (by simp)⟩

theorem of_eq (h : Housed s guard c) (ho : d.objects = c.objects) (ht : d.tenants = c.tenants) :
    Housed s guard d := by
  obtain ⟨hnamed, hguarded, hinside⟩ := h
  constructor
  · rw [ht]
    exact hnamed
  · rw [ho, ht]
    exact hguarded
  · rw [ho]
    exact hinside

/-- The tenant of a namespace is kept under the name that its body gives. -/
theorem keeper (h : Housed s guard c) {k : ObjectKey} {m : Manifest}
    (hk : c.objects.get? k = some m) (hkind : k.kind = .namespaceKind) :
    ∃ n kept, k = Names.spaceKey s n ∧ c.tenants.get? (.text n) = some kept ∧
      kept.body.metadatum "name" = some (.str n) ∧ IsGuarded guard kept.body := by
  obtain ⟨n, kept, rfl, hkept, hg⟩ := h.guarded hk hkind
  obtain ⟨n', hn', hname⟩ := h.named hkept
  obtain rfl := Key.Identity.text.inj hn'
  exact ⟨n, kept, rfl, hkept, hname, hg⟩

section Unguarded

variable {n : String}

theorem get?_spaceKey_eq_none (h : Housed s guard c)
    (hn : ∀ kept, c.tenants.get? (.text n) = some kept → ¬ IsGuarded guard kept.body) :
    c.objects.get? (Names.spaceKey s n) = none := by
  rw [Option.eq_none_iff_forall_ne_some]
  intro m hm
  obtain ⟨n', kept, hkey, hkept, hg⟩ := h.guarded hm rfl
  obtain rfl := Names.spaceKey_inj hkey
  exact hn kept hkept hg

/-- No object is the namespace of a tenant that is not stored or has no guard, and none is in it. -/
theorem apart (h : Housed s guard c)
    (hn : ∀ kept, c.tenants.get? (.text n) = some kept → ¬ IsGuarded guard kept.body)
    {k : ObjectKey} {m : Manifest} (hk : c.objects.get? k = some m) :
    k ≠ Names.spaceKey s n ∧ k.namespaceName ≠ some (Names.space s n) := by
  have hgone : c.objects.get? (Names.spaceKey s n) = none := h.get?_spaceKey_eq_none hn
  constructor
  · rintro rfl
    exact absurd (hk.symm.trans hgone) (by simp)
  · intro hx
    -- A namespace is in no namespace, and any other object is in one that is there.
    by_cases hkind : k.kind = .namespaceKind
    · obtain ⟨n', _, rfl, -⟩ := h.guarded hk hkind
      exact absurd hx (by simp [Names.spaceKey])
    · obtain ⟨y, hy, hthere⟩ := h.inside hk hkind
      obtain rfl := Option.some.inj (hx.symm.trans hy)
      rw [show (⟨.namespaceKind, none, _⟩ : ObjectKey) = Names.spaceKey s n from rfl,
        hgone] at hthere
      exact absurd hthere (by simp)

end Unguarded

/-- Tenants may change as long as those that have namespaces stay guarded. -/
theorem of_tenants (h : Housed s guard c) (ho : d.objects = c.objects)
    (hnamed : ∀ {key kept}, d.tenants.get? key = some kept →
      ∃ n, key = .text n ∧ kept.body.metadatum "name" = some (.str n))
    (hguarded : ∀ {n kept}, (c.objects.get? (Names.spaceKey s n)).isSome = true →
      c.tenants.get? (.text n) = some kept → IsGuarded guard kept.body →
      ∃ later, d.tenants.get? (.text n) = some later ∧ IsGuarded guard later.body) :
    Housed s guard d where
  named := hnamed
  guarded {k m} hk hkind := by
    rw [ho] at hk
    obtain ⟨n, kept, rfl, hkept, hg⟩ := h.guarded hk hkind
    obtain ⟨later, hlater, hg'⟩ := hguarded (by rw [hk]; rfl) hkept hg
    exact ⟨n, later, rfl, hlater, hg'⟩
  inside := by
    rw [ho]
    exact h.inside

/-- A tenant may get another body of the same name and finalizers. -/
theorem rewritten (h : Housed s guard c) {key : TenantKey} {kept : StoredTenant}
    (hk : c.tenants.get? key = some kept) {body : Json}
    (hn : body.metadatum "name" = kept.body.metadatum "name")
    (hf : body.metadatum "finalizers" = kept.body.metadatum "finalizers") :
    Housed s guard (c.rewritten key kept body) := by
  refine h.of_tenants rfl ?_ ?_
  · intro k found hfound
    rw [MemoryCluster.rewritten, Table.get?_insert] at hfound
    split at hfound
    · rename_i hkey
      obtain ⟨n, rfl, hname⟩ := h.named hk
      obtain rfl := Option.some.inj hfound
      exact ⟨n, hkey.symm, hn.trans hname⟩
    · exact h.named hfound
  · intro n found _ hfound hg
    rw [MemoryCluster.rewritten, Table.get?_insert]
    split
    · rename_i hkey
      rw [← hkey, hk, Option.some.injEq] at hfound
      refine ⟨_, rfl, ?_⟩
      rw [IsGuarded, hf, hfound]
      exact hg
    · exact ⟨found, hfound, hg⟩

/-- A tenant without the guard may go. -/
theorem dropped (h : Housed s guard c) {key : TenantKey} {kept : StoredTenant}
    (hk : c.tenants.get? key = some kept) (hg : ¬ IsGuarded guard kept.body) :
    Housed s guard { c with tenants := c.tenants.erase key } := by
  refine h.of_tenants rfl ?_ ?_
  · intro k found hfound
    rw [Table.get?_erase] at hfound
    split at hfound
    · exact absurd hfound (by simp)
    · exact h.named hfound
  · intro n found _ hfound hguarded
    refine ⟨found, ?_, hguarded⟩
    rw [Table.get?_erase, if_neg]
    · exact hfound
    rintro rfl
    rw [hk, Option.some.injEq] at hfound
    exact hg (hfound ▸ hguarded)

/-- Objects may come as long as the new ones have tenants and namespaces. -/
theorem adds {new : Manifest → Prop} (h : Housed s guard c) (ht : d.tenants = c.tenants)
    (ha : Adds new c d)
    (hspace : ∀ m, new m → m.key.kind = .namespaceKind → ∃ n kept, m.key = Names.spaceKey s n ∧
      c.tenants.get? (.text n) = some kept ∧ IsGuarded guard kept.body)
    (hinside : ∀ m, new m → m.key.kind ≠ .namespaceKind → ∃ x, m.key.namespaceName = some x ∧
      (d.objects.get? ⟨.namespaceKind, none, x⟩).isSome = true) : Housed s guard d where
  named := by
    rw [ht]
    exact h.named
  guarded {k m} hk hkind := by
    rw [ht]
    cases hc : c.objects.get? k with
    | some m' => exact h.guarded hc hkind
    | none =>
      obtain ⟨hm, rfl⟩ := ha.new hc hk
      exact hspace m hm hkind
  inside {k m} hk hkind := by
    cases hc : c.objects.get? k with
    | some m' =>
      obtain ⟨x, hx, hthere⟩ := h.inside hc hkind
      exact ⟨x, hx, ha.isSome hthere⟩
    | none =>
      obtain ⟨hm, rfl⟩ := ha.new hc hk
      exact hinside m hm hkind

theorem of_keys (h : Housed s guard c) (ht : d.tenants = c.tenants)
    (ho : ∀ k, (d.objects.get? k).isSome = (c.objects.get? k).isSome) : Housed s guard d := by
  have hc : ∀ {k m}, d.objects.get? k = some m → ∃ m', c.objects.get? k = some m' := by
    intro k m hk
    rw [← Option.isSome_iff_exists, ← ho, hk]
    rfl
  constructor
  · rw [ht]
    exact h.named
  · intro k m hk hkind
    obtain ⟨m', hm'⟩ := hc hk
    rw [ht]
    exact h.guarded hm' hkind
  · intro k m hk hkind
    obtain ⟨m', hm'⟩ := hc hk
    obtain ⟨x, hx, hthere⟩ := h.inside hm' hkind
    exact ⟨x, hx, by rw [ho, hthere]⟩

theorem emptied (h : Housed s guard c) (key : ObjectKey) : Housed s guard (c.emptied key) where
  named := by
    rw [MemoryCluster.emptied_tenants]
    exact h.named
  guarded {k m} hk hkind := by
    rw [MemoryCluster.get?_emptied] at hk
    split at hk
    · exact absurd hk (by simp)
    · rw [MemoryCluster.emptied_tenants]
      exact h.guarded hk hkind
  inside {k m} hk hkind := by
    rw [MemoryCluster.get?_emptied] at hk
    split at hk
    · exact absurd hk (by simp)
    rename_i hleft
    obtain ⟨x, hx, hthere⟩ := h.inside hk hkind
    refine ⟨x, hx, ?_⟩
    rw [MemoryCluster.get?_emptied, if_neg]
    · exact hthere
    rintro ⟨hkey, rfl | ⟨-, hno⟩⟩
    · exact hleft ⟨hkey, .inr ⟨rfl, hx⟩⟩
    · exact absurd hno (by simp)

/-- A body may take the place of one that has its name, as long as it is guarded if there is a
namespace. -/
theorem replaces (h : Housed s guard c) {n : String} {sent : Json} {m : Metadata}
    {e : Except Fault Json} (hm : metadataOf sent = .ok m) (hn : m.name = n)
    (hr : Replaces n sent c e d)
    (hguard : (c.objects.get? (Names.spaceKey s n)).isSome = true →
      m.finalizers.contains guard = true) : Housed s guard d := by
  cases e with
  | error fault => exact h.of_eq hr.objects_eq hr.tenants_of_error
  | ok stored =>
    obtain rfl := hr.stored_eq
    have hstored := metadataOf_withVersion hm (toString c.nextVersion)
    refine h.of_tenants hr.objects_eq ?_ ?_
    · intro key kept hk
      by_cases hkey : key = .text n
      · subst hkey
        refine ⟨n, rfl, ?_⟩
        have hname := metadatum_name hstored
        rw [hr.body_of_get? hk, ← hn]
        exact hname
      · rw [hr.get?_of_ne hkey] at hk
        exact h.named hk
    · intro n' kept hspace hk hg
      by_cases hkey : n' = n
      · subst hkey
        have hcontains := hguard hspace
        have hkeeps : MemoryCluster.isReleased
            (.ofOption ((sent.withVersion c.version).get? "metadata")) = false := by
          rw [Bool.eq_false_iff]
          intro hrel
          obtain ⟨-, hf⟩ := MemoryCluster.marked_of_isReleased hstored hrel
          rw [show m.finalizers = [] from hf] at hcontains
          exact absurd hcontains (by simp)
        obtain ⟨current, -, hlater⟩ := hr.get?_self hkeeps
        exact ⟨_, hlater, (isGuarded_iff hstored guard).2 hcontains⟩
      · rw [← hr.get?_of_ne (fun he => hkey (Key.Identity.text.inj he))] at hk
        exact ⟨kept, hk, hg⟩

end Housed

/-! ## Passes -/

/-- A tenant that a pass finds is kept under the name in its metadata. -/
theorem Housed.kept_of_finds {s : Settings} {guard : String} {c : MemoryCluster}
    (h : Housed s guard c) {name body : Json} (hb : Finds c name body) {m : Metadata}
    (hm : metadataOf body = .ok m) :
    ∃ kept, c.tenants.get? (.text m.name) = some kept ∧ kept.body = body := by
  obtain ⟨-, key, kept, -, hk, rfl⟩ := hb
  obtain ⟨n, rfl, hn⟩ := h.named hk
  have hname : n = m.name := by
    rw [metadatum_name hm, Option.some.injEq, Json.str.injEq] at hn
    exact hn.symm
  rw [hname] at hk
  exact ⟨kept, hk, rfl⟩

/-- The objects of a tenant's components are not namespaces, and they are in its own. -/
theorem Manifest.inside_of_isOf {s : Settings} {t : Declaration} {m : Manifest}
    (h : m.IsOf s t) (hkind : m.key.kind ≠ .namespaceKind) :
    m.key.namespaceName = some (Names.space s t.identifier) := by
  obtain rfl | ⟨p, child, -, hb, rfl⟩ := h
  · exact absurd rfl hkind
  · rw [show child.manifest.key = _ from Component.key_of_build hb]

theorem Manifest.spaceKey_of_isOf {s : Settings} {t : Declaration} {m : Manifest}
    (h : m.IsOf s t) (hkind : m.key.kind = .namespaceKind) :
    m.key = Names.spaceKey s t.identifier := by
  obtain rfl | ⟨p, child, -, hb, rfl⟩ := h
  · rfl
  · rw [show child.manifest.key = _ from Component.key_of_build hb] at hkind
    exact absurd hkind p.kind_ne_namespaceKind

/-- A pass for a guarded tenant makes its namespace before anything in it. -/
theorem Maintains.housed {op : Operator} {r r' : PassResult} {body : Json} {c d : MemoryCluster}
    (hm : Maintains op r body c r' d) (h : Housed op.settings op.guard c)
    (hkept : ∀ t, Declaration.parse body = .ok t → ∃ kept,
      c.tenants.get? (.text t.identifier) = some kept ∧ IsGuarded op.guard kept.body) :
    Housed op.settings op.guard d := by
  have htenants := hm.tenants_eq
  cases hm with
  | invalid ht => exact h
  | unopened ht hs => exact h.of_eq hs.objects_of_error htenants
  | @opened t d ht hs =>
    obtain ⟨kept, hk, hg⟩ := hkept t ht
    refine h.adds htenants hs.adds ?_ ?_
    · rintro m rfl -
      exact ⟨t.identifier, kept, rfl, hk, hg⟩
    · rintro m rfl hkind
      exact absurd rfl hkind
  | @supplied t p mid _ ht hs hp =>
    obtain ⟨kept, hk, hg⟩ := hkept t ht
    have hspace := hs.isSome_of_present
    rw [key_space] at hspace
    have hadds : Adds (Manifest.IsOf op.settings t) c d := (Adds.of_eq hs.objects_of_present).trans
      hp.adds
    refine h.adds htenants hadds ?_ ?_
    · intro m hm hkind
      exact ⟨t.identifier, kept, m.spaceKey_of_isOf hm hkind, hk, hg⟩
    · intro m hm hkind
      exact ⟨_, m.inside_of_isOf hm hkind, hadds.isSome hspace⟩

/-- The guard comes off a tenant when its namespace is gone. -/
theorem CleansUp.housed {op : Operator} {body : Json} {m : Metadata} {c d : MemoryCluster}
    {e : Except Fault Json} (hcl : CleansUp op body m c e d) (hm : metadataOf body = .ok m)
    (h : Housed op.settings op.guard c) : Housed op.settings op.guard d := by
  cases hcl with
  | undeleted hf => exact h.of_eq rfl rfl
  | deleted hf hrep =>
    have hnoted : Housed op.settings op.guard
        (c.noting (.deleting (Names.spaceKey op.settings m.name))) := h.of_eq rfl rfl
    refine (hnoted.emptied _).replaces (op.metadataOf_releasedForm hm) rfl hrep fun hspace => ?_
    rw [MemoryCluster.get?_emptied_self] at hspace
    exact absurd hspace (by simp)

/-- A pass leaves no namespace without a guarded tenant and no object without its namespace,
however it ends. -/
theorem Reconciles.housed {op : Operator} {name : Json} {c d : MemoryCluster} {r : PassResult}
    (hr : Reconciles op name c r d) (h : Housed op.settings op.guard c) :
    Housed op.settings op.guard d := by
  have hnoted : ∀ call, Housed op.settings op.guard (c.noting call) := fun _ => h.of_eq rfl rfl
  cases hr with
  | uncleaned hb hm hd hg hcl => exact hcl.housed hm (hnoted _)
  | cleaned hb hm hd hg hcl => exact hcl.housed hm (hnoted _)
  | @guarded body m r d hb hm hd hg hmt =>
    refine hmt.housed (hnoted _) fun t ht => ?_
    obtain rfl := Except.ok.inj (hm.symm.trans (metadataOf_of_parse ht))
    obtain ⟨kept, hk, rfl⟩ := h.kept_of_finds hb hm
    exact ⟨kept, hk, (isGuarded_iff hm _).2 hg⟩
  | unguarded hb hm hd hg hrep => exact (hnoted _).of_eq hrep.objects_eq hrep.tenants_of_error
  | @newlyGuarded body stored m r d e hb hm hd hg hrep hmt =>
    obtain rfl := hrep.stored_eq
    have hguarded := (hnoted _).replaces (op.metadataOf_guardedForm hm) rfl hrep fun _ => by simp
    refine hmt.housed hguarded fun t ht => ?_
    obtain ⟨current, -, hk⟩ := hrep.get?_self (op.isReleased_guarded hm _)
    have hm' := Except.ok.inj ((metadataOf_of_parse ht).symm.trans (op.metadataOf_guarded hm _))
    rw [Declaration.identifier, hm']
    exact ⟨_, hk, op.isGuarded_guarded hm _⟩
  | _ => exact hnoted _

/-! ## Changes that leave metadata alone -/

structure SameMetadata (c d : MemoryCluster) : Prop where
  objects : d.objects = c.objects
  metadata (key : TenantKey) :
    (d.tenants.get? key).map (fun kept => kept.body.get? "metadata") =
      (c.tenants.get? key).map fun kept => kept.body.get? "metadata"

namespace SameMetadata

variable {c d : MemoryCluster}

theorem of_eq (ho : d.objects = c.objects) (ht : d.tenants = c.tenants) : SameMetadata c d :=
  ⟨ho, fun key => by rw [ht]⟩

theorem rewritten {key : TenantKey} {kept : StoredTenant} (hk : c.tenants.get? key = some kept)
    {body : Json} (hb : body.get? "metadata" = kept.body.get? "metadata") :
    SameMetadata c (c.rewritten key kept body) where
  objects := rfl
  metadata k := by
    simp only [MemoryCluster.rewritten, Table.get?_insert]
    split
    · rename_i he
      rw [← he, hk, Option.map_some, Option.map_some, hb]
    · rfl

theorem kept (h : SameMetadata c d) {key : TenantKey} {kept : StoredTenant}
    (hk : c.tenants.get? key = some kept) :
    ∃ later, d.tenants.get? key = some later ∧
      later.body.get? "metadata" = kept.body.get? "metadata" := by
  have hm := h.metadata key
  rw [hk, Option.map_some, Option.map_eq_some_iff] at hm
  exact hm

theorem symm (h : SameMetadata c d) : SameMetadata d c :=
  ⟨h.objects.symm, fun key => (h.metadata key).symm⟩

end SameMetadata

theorem Housed.of_sameMetadata {s : Settings} {guard : String} {c d : MemoryCluster}
    (h : Housed s guard c) (hs : SameMetadata c d) : Housed s guard d := by
  refine h.of_tenants hs.objects ?_ ?_
  · intro key kept hk
    obtain ⟨before, hb, hm⟩ := hs.symm.kept hk
    obtain ⟨n, rfl, hn⟩ := h.named hb
    refine ⟨n, rfl, ?_⟩
    rw [Json.metadatum, ← hm]
    exact hn
  · intro n kept _ hk hg
    obtain ⟨later, hl, hm⟩ := hs.kept hk
    refine ⟨later, hl, ?_⟩
    rw [IsGuarded, Json.metadatum, hm]
    exact hg

/-- A patch changes the status of a tenant and nothing else. -/
theorem MemoryCluster.patchTenantStatus_sameMetadata (c : MemoryCluster) (name patch : Json) :
    SameMetadata c ((patchTenantStatus name patch).run c).2 := by
  obtain h | ⟨key, kept, status, -, hk, h⟩ := c.cluster_patchTenantStatus name patch
  · rw [h]
    exact .of_eq rfl rfl
  · have hbody := Json.get?_set_ne (by decide : (Key.text "status").identity ≠
      (Key.text "metadata").identity) kept.body status
    have hrewritten := SameMetadata.rewritten hk hbody
    rw [h]
    exact ⟨hrewritten.objects, hrewritten.metadata⟩

end MoodleTenancy
