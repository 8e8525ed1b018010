import MoodleTenancy.Proofs.Isolation
import MoodleTenancy.Proofs.Reports

/-!
# What a turn leaves of a tenant

A tenant is written up to three times in a turn, each time as it was read before. What others have
put into it is there afterwards: their finalizers in their order, and their keys of the status.

* `PassResult.statusKeys`: the keys of the status that reports write.
* `GuardChange`: what may become of the finalizers.
* `Upkeep`: what may become of a stored tenant. `KeptUp`: the same, if it is stored at all.
* `Replaces.keptUp`, `Reconciles.keptUp`, `KeptUp.patched`: each of the writes.
* `attend_upkeeps`: a turn, whether it returns or fails.
-/

namespace MoodleTenancy
set_option autoImplicit false

/-! ## The keys that reports write -/

namespace Fields

theorem get?_overlay_of_notMem {key : Key} {fields patch : Fields}
    (h : key.identity ∉ identities patch) :
    get? key (overlay fields patch) = get? key fields := by
  induction patch generalizing fields with
  | nil => rfl
  | cons f rest ih =>
    rw [identities, List.map_cons, List.mem_cons, not_or] at h
    show get? key (overlay (set f.1 f.2 fields) rest) = _
    rw [ih h.2, get?_set_ne (Ne.symm h.1)]

theorem identities_set_subset (key : Key) (v : Json) (fields : Fields) :
    identities (set key v fields) ⊆ key.identity :: identities fields := by
  cases h : get? key fields with
  | none =>
    rw [identities_set_of_none h]
    intro i hi
    obtain hi | hi := List.mem_append.1 hi
    · exact List.mem_cons_of_mem _ hi
    · exact List.mem_cons.2 (.inl (List.mem_singleton.1 hi))
  | some u =>
    rw [identities_set_of_isSome (by rw [h]; rfl)]
    exact List.subset_cons_self _ _

theorem identities_presentFields_subset (fields : List (String × Option Json)) :
    identities (Json.presentFields fields) ⊆ fields.map fun f => .text f.1 := by
  intro i hi
  obtain ⟨f, hf, rfl⟩ := List.mem_map.1 hi
  obtain ⟨g, hg, hgf⟩ := List.mem_filterMap.1 hf
  obtain ⟨v, -, rfl⟩ := Option.map_eq_some_iff.1 hgf
  exact List.mem_map_of_mem (f := fun f : String × Option Json => Key.Identity.text f.1) hg

end Fields

namespace PassResult

/-- The keys of the status that reports write. -/
def statusKeys : List Key.Identity :=
  [.text "phase", .text "namespace", .text "observedGeneration", .text "retryCount", .text "url",
    .text "message", .text "conditions", .text "activityLog", .text "lastUpdated"]

variable {s : Settings} {now : Time.Instant} {r : PassResult}

theorem identities_statusFields {body previous : Json} {fields : Fields}
    (h : r.statusFields s now body previous = .ok fields) :
    Fields.identities fields ⊆ statusKeys := by
  simp only [statusFields, Except.bind_eq_ok_iff] at h
  obtain ⟨conditions, -, log, -, metadata, -, generation, -, report, -, draft, -, h⟩ := h
  obtain rfl := Except.ok.inj h
  refine List.Subset.trans (Fields.identities_presentFields_subset _) ?_
  exact (List.prefix_append _ [Key.Identity.text "lastUpdated"]).subset

theorem identities_patch {patch : Json} (h : r.patch s now = .ok (some patch)) :
    ∃ fields, patch = .obj fields ∧ Fields.identities fields ⊆ statusKeys := by
  cases hb : r.body with
  | none =>
    rw [patch_of_body_eq_none hb] at h
    exact absurd h (by simp)
  | some body =>
    obtain ⟨status, fields, -, hfields, ⟨-, hnone⟩ | ⟨time, hpatch⟩⟩ := patch_eq_ok hb h
    · exact absurd hnone (by simp)
    · refine ⟨_, Option.some.inj hpatch,
        List.Subset.trans (Fields.identities_set_subset _ _ _) ?_⟩
      exact List.cons_subset.2 ⟨by decide, identities_statusFields hfields⟩

end PassResult

/-! ## What may become of a tenant -/

/-- The finalizers stay, or else the guard comes behind them while the tenant is not marked for
deletion, or is taken from among them once it is. -/
inductive GuardChange (guard : String) (before after : Json) : Prop where
  | unchanged (h : after.metadatum "finalizers" = before.metadatum "finalizers")
  | guarded {m : Metadata} (hm : metadataOf before = .ok m) (hd : m.isMarked = false)
    (hg : guard ∉ m.finalizers)
    (h : after.metadatum "finalizers" = some (.strings (m.finalizers ++ [guard])))
  | released {m : Metadata} (hm : metadataOf before = .ok m) (hd : m.isMarked = true)
    (hg : guard ∈ m.finalizers)
    (h : after.metadatum "finalizers" = some (.strings (m.finalizers.filter (· != guard))))

/-- What may become of a stored tenant: nothing but the version, the guard and what reports write. -/
structure Upkeep (guard : String) (before after : StoredTenant) : Prop where
  name : after.name = before.name
  body (key : Key) : key.identity ∉ [.text "metadata", .text "status"] →
    after.body.get? key = before.body.get? key
  metadata (key : Key) : key.identity ∉ [.text "resourceVersion", .text "finalizers"] →
    after.body.under "metadata" key = before.body.under "metadata" key
  finalizers : GuardChange guard before.body after.body
  status (key : Key) : key.identity ∉ PassResult.statusKeys →
    after.body.under "status" key = before.body.under "status" key

/-- What may become of a tenant that is stored or not: one that is marked for deletion goes away if
no finalizer but the guard has kept it. -/
inductive KeptUp (guard : String) : Option StoredTenant → Option StoredTenant → Prop where
  | absent : KeptUp guard none none
  | stored {before after : StoredTenant} (h : Upkeep guard before after) :
    KeptUp guard (some before) (some after)
  | purged {before : StoredTenant} {m : Metadata} (hm : metadataOf before.body = .ok m)
    (hd : m.isMarked = true) (hg : guard ∈ m.finalizers)
    (hf : m.finalizers.filter (· != guard) = []) : KeptUp guard (some before) none

theorem Upkeep.refl (guard : String) (t : StoredTenant) : Upkeep guard t t :=
  ⟨rfl, fun _ _ => rfl, fun _ _ => rfl, .unchanged rfl, fun _ _ => rfl⟩

theorem KeptUp.refl (guard : String) : (o : Option StoredTenant) → KeptUp guard o o
  | none => .absent
  | some t => .stored (.refl guard t)

/-! ## Foreign finalizers -/

theorem metadatum_finalizers {body : Json} {m : Metadata} (h : metadataOf body = .ok m) :
    (body.metadatum "finalizers" = none ∧ m.finalizers = []) ∨
      body.metadatum "finalizers" = some (.strings m.finalizers) := by
  obtain ⟨fields, md, rfl, hg, ha⟩ := metadataOf_eq_ok.1 h
  simp only [Json.metadatum, Json.get?_obj, hg, Option.bind_some]
  exact get?_finalizers_of_accepted ha

theorem finalizers_of_metadatum {body : Json} {m : Metadata} (h : metadataOf body = .ok m)
    {fs : List String} (hf : body.metadatum "finalizers" = some (.strings fs)) :
    m.finalizers = fs := by
  obtain ⟨hnone, -⟩ | hsome := metadatum_finalizers h
  · exact absurd (hnone.symm.trans hf) (by simp)
  · have harr := Json.arr.inj (Option.some.inj (hsome.symm.trans hf))
    exact List.map_injective_iff.2 (fun _ _ => Json.str.inj) harr

/-- Other finalizers are neither added nor dropped, and stay in their order. -/
theorem GuardChange.foreign {guard : String} {before after : Json}
    (h : GuardChange guard before after) {m m' : Metadata} (hm : metadataOf before = .ok m)
    (hm' : metadataOf after = .ok m') :
    m'.finalizers.filter (· != guard) = m.finalizers.filter (· != guard) := by
  cases h with
  | unchanged h =>
    obtain ⟨hnone, hempty⟩ | hsome := metadatum_finalizers hm
    · obtain ⟨-, hempty'⟩ | hsome' := metadatum_finalizers hm'
      · rw [hempty, hempty']
      · exact absurd (hnone.symm.trans (h.symm.trans hsome')) (by simp)
    · rw [finalizers_of_metadatum hm' (h.trans hsome)]
  | guarded hm₁ hd hg h =>
    obtain rfl := Except.ok.inj (hm.symm.trans hm₁)
    rw [finalizers_of_metadatum hm' h]
    simp
  | released hm₁ hd hg h =>
    obtain rfl := Except.ok.inj (hm.symm.trans hm₁)
    rw [finalizers_of_metadatum hm' h, List.filter_filter]
    simp

/-! ## Passes -/

theorem Upkeep.refinalized {guard : String} {before : StoredTenant} {m : Metadata}
    (hm : metadataOf before.body = .ok m) {finalizers : List String} {v : Json}
    (h : ∀ after : Json, after.metadatum "finalizers" = some (.strings finalizers) →
      GuardChange guard before.body after) :
    Upkeep guard before ⟨before.name,
      (Operator.replaceFinalizers before.body (finalizers.map .str)).withVersion v⟩ where
  name := rfl
  body key hkey := by
    have hne : (Key.text "metadata").identity ≠ key.identity := fun heq =>
      hkey (heq ▸ List.mem_cons_self)
    exact (Json.get?_set_ne hne _ _).trans (Json.get?_set_ne hne _ _)
  metadata key hkey := by
    simp only [List.mem_cons, List.not_mem_nil, or_false, not_or] at hkey
    rw [Json.withVersion, Json.under_setMetadata_ne (Ne.symm hkey.1), replaceFinalizers_eq,
      Json.under_setMetadata_ne (Ne.symm hkey.2)]
  finalizers := by
    refine h _ ?_
    rw [Json.withVersion, metadatum_setMetadata_ne (by decide), replaceFinalizers_eq,
      metadatum_setMetadata_self hm]
    rfl
  status key _ := by
    rw [Json.under, Json.withVersion, Json.get?_setMetadata_ne (by decide), replaceFinalizers_eq,
      Json.get?_setMetadata_ne (by decide)]
    rfl

section Passes

variable {op : Operator} {n : String} {c d : MemoryCluster}

/-- What is stored under a name is the body in the end, unless it was refused or nothing keeps it. -/
theorem Replaces.stored_or {sent : Json} {e : Except Fault Json} (h : Replaces n sent c e d)
    {kept : StoredTenant} (hk : c.tenants.get? (.text n) = some kept) :
    d.tenants.get? (.text n) = some kept ∨
      (MemoryCluster.isReleased (.ofOption ((sent.withVersion c.version).get? "metadata")) = true ∧
        d.tenants.get? (.text n) = none) ∨
      d.tenants.get? (.text n) = some ⟨kept.name, sent.withVersion c.version⟩ := by
  cases h with
  | refused h => exact .inl hk
  | taken h hc =>
    obtain rfl := Option.some.inj (hk.symm.trans hc)
    right
    rw [MemoryCluster.replaced_tenants, MemoryCluster.tenantsWith]
    split
    · rename_i hreleased
      exact .inl ⟨hreleased, by rw [Table.get?_erase, if_pos rfl]⟩
    · exact .inr (Table.get?_insert_self _ _ _)

theorem Replaces.guards {kept : StoredTenant} {m : Metadata} {e : Except Fault Json}
    (h : Replaces m.name (op.guardedForm kept.body m) c e d)
    (hk : c.tenants.get? (.text m.name) = some kept) (hm : metadataOf kept.body = .ok m)
    (hd : m.isMarked = false) (hg : m.finalizers.contains op.guard = false) :
    KeptUp op.guard (some kept) (d.tenants.get? (.text m.name)) := by
  obtain h | ⟨hreleased, -⟩ | h := h.stored_or hk
  · rw [h]
    exact .refl _ _
  · exact absurd (hreleased.symm.trans (op.isReleased_guarded hm c)) (by simp)
  · rw [h]
    exact .stored (.refinalized hm fun _ => .guarded hm hd (by simpa using hg))

theorem CleansUp.keptUp {kept : StoredTenant} {m : Metadata} {e : Except Fault Json}
    (h : CleansUp op kept.body m c e d) (hk : c.tenants.get? (.text m.name) = some kept)
    (hm : metadataOf kept.body = .ok m) (hd : m.isMarked = true)
    (hg : m.finalizers.contains op.guard = true) :
    KeptUp op.guard (some kept) (d.tenants.get? (.text m.name)) := by
  have hguard : op.guard ∈ m.finalizers := by simpa using hg
  cases h with
  | undeleted hf =>
    rw [MemoryCluster.noting_tenants, hk]
    exact .refl _ _
  | deleted hf h =>
    have hsame : ((c.noting (.deleting (Names.spaceKey op.settings m.name))).emptied
        (Names.spaceKey op.settings m.name)).tenants.get? (.text m.name) = some kept := by
      rw [MemoryCluster.emptied_tenants, MemoryCluster.noting_tenants, hk]
    obtain h | ⟨hreleased, h⟩ | h := h.stored_or hsame
    · rw [h]
      exact .refl _ _
    · obtain ⟨-, hnone⟩ := MemoryCluster.marked_of_isReleased
        (metadataOf_withVersion (op.metadataOf_releasedForm hm) _) hreleased
      rw [h]
      exact .purged hm hd hguard hnone
    · rw [h]
      exact .stored (.refinalized hm fun _ => .released hm hd hguard)

theorem Reconciles.keptUp {r : PassResult} (h : Reconciles op (.str n) c r d)
    (hn : c.KnowsAs n) :
    KeptUp op.guard (c.tenants.get? (.text n)) (d.tenants.get? (.text n)) := by
  -- Passes write the tenant to take the guard off or to put it on, and otherwise not at all.
  cases h with
  | uncleaned hb hm hd hg h =>
    obtain rfl := hn.name_eq hb hm
    obtain ⟨kept, hk, rfl⟩ := hb.exists_kept
    rw [hk]
    exact h.keptUp hk hm hd hg
  | cleaned hb hm hd hg h =>
    obtain rfl := hn.name_eq hb hm
    obtain ⟨kept, hk, rfl⟩ := hb.exists_kept
    rw [hk]
    exact h.keptUp hk hm hd hg
  | guarded hb hm hd hg h =>
    rw [h.tenants_eq]
    exact .refl _ _
  | unguarded hb hm hd hg h =>
    rw [h.tenants_of_error]
    exact .refl _ _
  | newlyGuarded hb hm hd hg h hr =>
    obtain rfl := hn.name_eq hb hm
    obtain ⟨kept, hk, rfl⟩ := hb.exists_kept
    rw [hk, hr.tenants_eq]
    exact h.guards hk hm hd hg
  | _ => exact .refl _ _

end Passes

/-! ## Reports -/

theorem MemoryCluster.under_status {body : Json} {fields : Fields}
    (h : statusFields body = .ok fields) (key : Key) :
    body.under "status" key = Fields.get? key fields := by
  rw [statusFields] at h
  rw [Json.under]
  cases hs : body.get? "status" with
  | none =>
    rw [hs] at h
    obtain rfl := Except.ok.inj h
    rfl
  | some status =>
    rw [hs] at h
    cases status with
    | obj there =>
      obtain rfl := Except.ok.inj h
      rfl
    | _ => exact absurd h (by simp)

theorem Upkeep.withStatus {guard : String} {before after : StoredTenant}
    (h : Upkeep guard before after) {status : Json}
    (hs : ∀ key : Key, key.identity ∉ PassResult.statusKeys →
      status.get? key = after.body.under "status" key) :
    Upkeep guard before ⟨after.name, after.body.set "status" status⟩ where
  name := h.name
  body key hkey := by
    have hne : (Key.text "status").identity ≠ key.identity := fun heq =>
      hkey (heq ▸ List.mem_cons_of_mem _ List.mem_cons_self)
    rw [Json.get?_set_ne hne, h.body key hkey]
  metadata key hkey := by
    rw [Json.under, Json.get?_set_ne (by decide)]
    exact h.metadata key hkey
  finalizers := by
    have hsame : ∀ key, (after.body.set "status" status).metadatum key =
        after.body.metadatum key := by
      intro key
      rw [Json.metadatum, Json.metadatum, Json.get?_set_ne (by decide)]
    cases h.finalizers with
    | unchanged hf => exact .unchanged ((hsame _).trans hf)
    | guarded hm hd hg hf => exact .guarded hm hd hg ((hsame _).trans hf)
    | released hm hd hg hf => exact .released hm hd hg ((hsame _).trans hf)
  status key hkey := by
    rw [← h.status key hkey]
    cases hb : after.body with
    | obj fields =>
      rw [Json.under_set_self, ← hb]
      exact hs key hkey
    | _ => rfl

namespace KeptUp

variable {op : Operator} {guard n : String} {before : Option StoredTenant}

theorem patched {c : MemoryCluster} (h : KeptUp guard before (c.tenants.get? (.text n)))
    {patch : Fields} (hp : Fields.identities patch ⊆ PassResult.statusKeys) :
    KeptUp guard before (((MemoryCluster.patchTenantStatus (.str n) (.obj patch)).run c).2.tenants
      |>.get? (.text n)) := by
  rw [MemoryCluster.run_patchTenantStatus, TenantKey.of_str]
  cases c.failures.get? (.patchTenantStatus, none) with
  | some fault => exact h
  | none =>
    cases hk : c.tenants.get? (.text n) with
    | none =>
      simp only [hk]
      exact h
    | some kept =>
      simp only [hk]
      cases hs : MemoryCluster.statusFields kept.body with
      | error fault => exact h
      | ok fields =>
        simp only [MemoryCluster.rewritten, Table.get?_insert_self, Fields.absorb_obj]
        rw [hk] at h
        cases h with
        | stored h =>
          refine .stored (h.withStatus fun key hkey => ?_)
          rw [Json.get?_obj, Fields.get?_overlay_of_notMem fun hmem => hkey (hp hmem),
            MemoryCluster.under_status hs]

theorem published {r : PassResult} {w : World MemoryCluster}
    (h : KeptUp guard before (w.cluster.tenants.get? (.text n))) (hr : r.name = .str n)
    (now : Time.Instant) :
    KeptUp guard before (((op.publish now r).run w).2.cluster.tenants.get? (.text n)) := by
  obtain hsame | ⟨patch, hpatch, hnew⟩ := op.cluster_publish now r w
  · rw [hsame]
    exact h
  · obtain ⟨fields, rfl, hkeys⟩ := PassResult.identities_patch hpatch
    rw [hnew, hr]
    exact h.patched hkeys

end KeptUp

/-! ## Turns -/

/-- Whether a turn returns or fails, and at whatever call it fails: other tenants stay as they are,
and its own stays as it is but for the version, the guard and the keys of the status that reports
write. -/
theorem attend_keeps_up (op : Operator) (now : Time.Instant) (n : String)
    {w : World MemoryCluster} (hw : w.cluster.SelfNamed) :
    let after := ((op.attend now (.str n)).run w).2.cluster
    (∀ key, key ≠ .text n → after.tenants.get? key = w.cluster.tenants.get? key) ∧
    KeptUp op.guard (w.cluster.tenants.get? (.text n)) (after.tenants.get? (.text n)) ∧
    (∀ kept later m m', w.cluster.tenants.get? (.text n) = some kept →
      after.tenants.get? (.text n) = some later → metadataOf kept.body = .ok m →
      metadataOf later.body = .ok m' →
      m'.finalizers.filter (· != op.guard) = m.finalizers.filter (· != op.guard)) := by
  intro after
  have hpass := reconcile_reconciles op (.str n) w
  have hkept : KeptUp op.guard (w.cluster.tenants.get? (.text n)) (after.tenants.get? (.text n)) := by
    simp only [after, Operator.run_attend_str]
    exact (hpass.keptUp (hw.knowsAs n)).published hpass.name_eq now
  refine ⟨fun key hkey => ?_, hkept, ?_⟩
  · exact (op.attend_spares now (hw.knowsAs n)).tenants hkey
  · intro kept later m m' hk hl hm hm'
    rw [hk, hl] at hkept
    cases hkept with
    | stored h => exact h.finalizers.foreign hm hm'

/-- A tenant that something else holds, with a note in its status. -/
def heldTenant (name hold note : String) : Json :=
  .obj [("metadata", .obj [("name", .str name), ("finalizers", .strings [hold])]),
    ("status", .obj [("note", .str note)])]

/-- The first turn puts the guard behind the finalizer that is there, and a failure beside the
note. -/
theorem attend_keeps_up_held :
    let op : Operator := {}
    let w : World MemoryCluster :=
      { cluster := .joinedBy {} [heldTenant "a" "example.com/hold" "kept", plainTenant "b"] }
    let after := ((op.attend 0 (.str "a")).run w).2.cluster
    ∃ kept later, w.cluster.tenants.get? (.text "a") = some kept ∧
      after.tenants.get? (.text "a") = some later ∧
      after.tenants.get? (.text "b") = w.cluster.tenants.get? (.text "b") ∧
      Upkeep op.guard kept later ∧
      later.body.metadatum "finalizers" = some (.strings ["example.com/hold", op.guard]) ∧
      later.body.under "status" "note" = some (.str "kept") ∧
      later.body.under "status" "phase" = some (.str "Failed") := by
  intro op w after
  have hself : w.cluster.SelfNamed := by
    refine MemoryCluster.selfNamed_empty.joinedBy ?_
    simp [Json.metadatum, plainTenant, heldTenant, Fields.get?_cons]
  obtain ⟨hothers, hkept, -⟩ := attend_keeps_up op 0 "a" hself
  obtain ⟨kept, hk⟩ : ∃ kept, w.cluster.tenants.get? (.text "a") = some kept := ⟨_, rfl⟩
  obtain ⟨later, hl, hfinalizers, hphase⟩ : ∃ later, after.tenants.get? (.text "a") = some later ∧
      later.body.metadatum "finalizers" = some (.strings ["example.com/hold", op.guard]) ∧
      later.body.under "status" "phase" = some (.str "Failed") := ⟨_, rfl, rfl, rfl⟩
  rw [hk, show _ = some later from hl] at hkept
  cases hkept with
  | stored h =>
    refine ⟨kept, later, hk, hl, hothers _ (by decide), h, hfinalizers, ?_, hphase⟩
    rw [h.status _ (by decide)]
    obtain rfl := Option.some.inj ((show _ = some _ from rfl).symm.trans hk)
    rfl

end MoodleTenancy
