import MoodleTenancy.Proofs.Additions

/-!
# Convergence

However much of what a tenant is to have is there, two passes without failures bring all of it into
being and leave the rest alone.

* `Tended`: a tenant that passes can look after, in a cluster without failures.
* `SuppliesAll.completes`, `SuppliesAll.idle`: all components are there after they are supplied, and
  nothing is made if they were before.
* `Tended.maintains`: a pass leaves the tenant as it was up to finalizers and version.
* `reconcile_converges`: two passes and a third one.
-/

namespace MoodleTenancy
set_option autoImplicit false

/-! ## Tenants to look after -/

/-- A valid tenant that is stored under its name and not being deleted, with a uid and a version, in
a cluster without failures. -/
structure Tended (c : MemoryCluster) (n : String) (body : Json) (t : Declaration) : Prop where
  unfailing : c.failures = []
  stored : ∃ kept, c.tenants.get? (.text n) = some kept ∧ kept.body = body
  valid : Declaration.parse body = .ok t
  named : t.metadata.name = n
  unmarked : t.metadata.isMarked = false
  owned : t.metadata.uid.isSome = true
  versioned : (body.metadatum "resourceVersion").isSome = true

theorem MemoryCluster.failureOf_eq_none {c : MemoryCluster} (h : c.failures = []) (call : Call) :
    c.failureOf call = none := by
  rw [failureOf, h, Table.get?_nil]

/-! ## Components -/

namespace Supplies

variable {m : Manifest} {c d : MemoryCluster} {e : Except Fault Supplied}

theorem succeeds (h : Supplies m c e d) (hc : c.failures = []) : ∃ x, e = .ok x := by
  have hnone := MemoryCluster.failureOf_eq_none hc
  cases h with
  | unread hf => exact absurd (hf.symm.trans (hnone _)) (by simp)
  | uncreated hf hm hcr => exact absurd (hcr.symm.trans (hnone _)) (by simp)
  | present => exact ⟨_, rfl⟩
  | created => exact ⟨_, rfl⟩

theorem isSome {x : Supplied} (h : Supplies m c (.ok x) d) :
    (d.objects.get? m.key).isSome = true := by
  cases h with
  | present hf hm => simp [hm]
  | created hf hm hc => simp

theorem isSome_keyFor {s : Settings} {t : Declaration} {p : Component} {child : Child}
    (hb : p.build s t (some (Names.space s t.identifier)) = .ok child) {x : Supplied}
    (h : Supplies child.manifest c (.ok x) d) :
    (d.objects.get? (p.keyFor s t)).isSome = true := by
  have hs := h.isSome
  rwa [show child.manifest.key = _ from Component.key_of_build hb] at hs

end Supplies

theorem Component.build_eq_ok {s : Settings} {t : Declaration} (ht : t.metadata.uid.isSome = true)
    (ns : Option String) (p : Component) : ∃ child, p.build s t ns = .ok child := by
  obtain ⟨uid, hu⟩ := Option.isSome_iff_exists.1 ht
  exact ⟨p.child s t ⟨t.apiVersion, t.kind, t.metadata.name, uid⟩ ns, by
    rw [build, Owner.of, hu]; rfl⟩

namespace SuppliesAll

variable {s : Settings} {t : Declaration} {ps : List Component} {c d : MemoryCluster}
  {r : Progress}

/-- Without failures, all components that are needed are there in the end. -/
theorem completes (h : SuppliesAll s t (Names.space s t.identifier) ps c r d)
    (hc : c.failures = []) (ht : t.metadata.uid.isSome = true) :
    r.fault = none ∧ ∀ p ∈ ps, p.isNeeded t = true →
      (d.objects.get? (p.keyFor s t)).isSome = true := by
  induction h with
  | done => exact ⟨rfl, by simp⟩
  | @skipped p rest c d r hp h ih =>
    obtain ⟨hr, hall⟩ := ih hc
    refine ⟨hr, ?_⟩
    intro q hq hneeded
    obtain rfl | hq := List.mem_cons.1 hq
    · exact absurd (hp.symm.trans hneeded) (by simp)
    · exact hall q hq hneeded
  | @unbuilt p rest c fault hp hb =>
    obtain ⟨child, hok⟩ := Component.build_eq_ok ht (some (Names.space s t.identifier)) p
    exact absurd (hb.symm.trans hok) (by simp)
  | failed hp hb h =>
    obtain ⟨x, hx⟩ := h.succeeds hc
    exact absurd hx (by simp)
  | present hp hb h hr ih =>
    obtain ⟨hf, hall⟩ := ih (h.failures_eq.trans hc)
    refine ⟨hf, List.forall_mem_cons.2 ⟨?_, hall⟩⟩
    intro _
    exact hr.adds.isSome (h.isSome_keyFor hb)
  | created hp hb h hr ih =>
    obtain ⟨hf, hall⟩ := ih (h.failures_eq.trans hc)
    refine ⟨hf, List.forall_mem_cons.2 ⟨?_, hall⟩⟩
    intro _
    exact hr.adds.isSome (h.isSome_keyFor hb)

/-- Nothing is made if all components that are needed are there before. -/
theorem idle (h : SuppliesAll s t (Names.space s t.identifier) ps c r d)
    (hall : ∀ p ∈ ps, p.isNeeded t = true → (c.objects.get? (p.keyFor s t)).isSome = true) :
    r.created = [] ∧ d.objects = c.objects := by
  induction h with
  | done => exact ⟨rfl, rfl⟩
  | skipped hp h ih => exact ih fun q hq => hall q (List.mem_cons_of_mem _ hq)
  | unbuilt hp hb => exact ⟨rfl, rfl⟩
  | failed hp hb h => exact ⟨rfl, h.objects_of_error⟩
  | present hp hb h hr ih =>
    have hobjects := h.objects_of_present
    rw [← hobjects]
    refine ih fun q hq hneeded => ?_
    rw [hobjects]
    exact hall q (List.mem_cons_of_mem _ hq) hneeded
  | @created p rest c d e child r hp hb h hr ih =>
    have hthere := hall p List.mem_cons_self hp
    have hmissing := h.isSome_of_created
    rw [show child.manifest.key = _ from Component.key_of_build hb] at hmissing
    exact absurd (hmissing.symm.trans hthere) (by simp)

end SuppliesAll

/-! ## Passes -/

namespace Tended

variable {op : Operator} {c d : MemoryCluster} {n : String} {body : Json} {t : Declaration}
  {r : PassResult}

theorem body_of_finds (h : Tended c n body t) {found : Json} (hf : Finds c (.str n) found) :
    found = body := by
  obtain ⟨kept, hk, rfl⟩ := h.stored
  exact hf.body_eq hk

theorem metadata_of_finds (h : Tended c n body t) {found : Json} (hf : Finds c (.str n) found)
    {m : Metadata} (hm : metadataOf found = .ok m) : m = t.metadata := by
  obtain rfl := h.body_of_finds hf
  exact Except.ok.inj (hm.symm.trans (metadataOf_of_parse h.valid))

theorem noting (h : Tended c n body t) (call : Call) : Tended (c.noting call) n body t :=
  ⟨h.unfailing, h.stored, h.valid, h.named, h.unmarked, h.owned, h.versioned⟩

theorem refusal_eq_none (h : Tended c n body t) (op : Operator) :
    c.refusal n (op.guardedForm body t.metadata) = none := by
  obtain ⟨kept, hk, rfl⟩ := h.stored
  obtain ⟨v, hv⟩ := Option.isSome_iff_exists.1 h.versioned
  have hsent : (op.guardedForm kept.body t.metadata).metadatum "resourceVersion" = some v := by
    rw [Operator.guardedForm, replaceFinalizers_eq, metadatum_setMetadata_ne (by decide), hv]
  exact MemoryCluster.refusal_eq_none (MemoryCluster.failureOf_eq_none h.unfailing _) hk hv hsent
    (MemoryCluster.same_of_metadatum_version (metadataOf_of_parse h.valid) hv)

/-- A tenant is looked after still once it is guarded. -/
theorem guarded (h : Tended c n body t) {stored : Json}
    (hr : Replaces n (op.guardedForm body t.metadata) c (.ok stored) d) :
    Tended d n stored (t.renewed (t.metadata.finalizers ++ [op.guard]) (toString c.nextVersion)) := by
  have hm := metadataOf_of_parse h.valid
  obtain rfl := hr.stored_eq
  obtain ⟨current, -, hd⟩ := hr.get?_self (op.isReleased_guarded hm c)
  have hversion := metadatum_setMetadata_self (op.metadataOf_guardedForm hm) "resourceVersion"
    c.version
  refine ⟨hr.failures_eq.trans h.unfailing, ⟨_, hd, rfl⟩, op.parse_guarded h.valid c, h.named,
    h.unmarked, h.owned, ?_⟩
  rw [Json.withVersion, hversion]
  rfl

/-- What is left to do once the tenant is guarded. The cluster has the same objects then, and the
tenant is as it was up to finalizers and version. -/
theorem maintains (h : Tended c n body t) (hr : Reconciles op (.str n) c r d) :
    ∃ fs v stored c', Tended c' n stored (t.renewed fs v) ∧ c'.objects = c.objects ∧
      Maintains op (.start (.str n)) stored c' r d := by
  have hnone := MemoryCluster.failureOf_eq_none h.unfailing
  cases hr with
  | unread hf => exact absurd (hf.symm.trans (hnone _)) (by simp)
  | unnamed hf hk => exact absurd (hk.symm.trans (TenantKey.of_str n)) (by simp)
  | absent hf hk ht =>
    obtain ⟨kept, hkept, -⟩ := h.stored
    obtain rfl := Except.ok.inj ((TenantKey.of_str n).symm.trans hk)
    exact absurd (ht.symm.trans hkept) (by simp)
  | unstaged hb hm =>
    obtain rfl := h.body_of_finds hb
    exact absurd (hm.symm.trans (metadataOf_of_parse h.valid)) (by simp)
  | released hb hm hd hg =>
    obtain rfl := h.metadata_of_finds hb hm
    exact absurd (hd.symm.trans h.unmarked) (by simp)
  | uncleaned hb hm hd hg hcl =>
    obtain rfl := h.metadata_of_finds hb hm
    exact absurd (hd.symm.trans h.unmarked) (by simp)
  | cleaned hb hm hd hg hcl =>
    obtain rfl := h.metadata_of_finds hb hm
    exact absurd (hd.symm.trans h.unmarked) (by simp)
  | guarded hb hm hd hg hmt =>
    obtain rfl := h.body_of_finds hb
    exact ⟨t.metadata.finalizers, t.metadata.resourceVersion, _, _, h.noting _, rfl, hmt⟩
  | unguarded hb hm hd hg hrep =>
    obtain rfl := h.metadata_of_finds hb hm
    obtain rfl := h.body_of_finds hb
    cases hrep with
    | refused hrefused =>
      rw [h.named] at hrefused
      exact absurd (hrefused.symm.trans (h.refusal_eq_none op)) (by simp)
  | newlyGuarded hb hm hd hg hrep hmt =>
    obtain rfl := h.metadata_of_finds hb hm
    obtain rfl := h.body_of_finds hb
    rw [h.named] at hrep
    exact ⟨_, _, _, _, (h.noting _).guarded hrep, hrep.objects_eq, hmt⟩

end Tended

/-- What a pass without failures achieves for a tenant that is not being deleted. -/
structure Advances (op : Operator) (t : Declaration) (c : MemoryCluster) (r : PassResult)
    (d : MemoryCluster) : Prop where
  adds : Adds (Manifest.IsOf op.settings t) c d
  outcome : r.outcome =
    if (c.objects.get? (Names.spaceKey op.settings t.identifier)).isSome then .converged
    else .requeue
  space : (d.objects.get? (Names.spaceKey op.settings t.identifier)).isSome = true
  components : (c.objects.get? (Names.spaceKey op.settings t.identifier)).isSome = true →
    ∀ p, Component.isNeeded p t = true →
      (d.objects.get? (p.keyFor op.settings t)).isSome = true
  idle : (c.objects.get? (Names.spaceKey op.settings t.identifier)).isSome = true →
    (∀ p, Component.isNeeded p t = true →
      (c.objects.get? (p.keyFor op.settings t)).isSome = true) →
    r.namespaceCreated = false ∧ r.created = [] ∧ d.objects = c.objects

theorem Advances.of_renewed {op : Operator} {t : Declaration} {fs : List String}
    {v : Option String} {c c' d : MemoryCluster} {r : PassResult}
    (h : Advances op (t.renewed fs v) c' r d) (hc : c'.objects = c.objects) :
    Advances op t c r d := by
  obtain ⟨hadds, hout, hspace, hcomp, hidle⟩ := h
  rw [Manifest.isOf_renewed] at hadds
  rw [hc] at hout hcomp hidle
  exact ⟨(Adds.of_eq hc).trans hadds, hout, hspace, hcomp, hidle⟩

theorem Maintains.advances {op : Operator} {c d : MemoryCluster} {name body : Json}
    {r : PassResult} (h : Maintains op (.start name) body c r d) (hf : c.failures = [])
    {t : Declaration} (hv : Declaration.parse body = .ok t) (ho : t.metadata.uid.isSome = true) :
    Advances op t c r d := by
  have hadds := h.adds hv
  cases h with
  | invalid ht => exact absurd (ht.symm.trans hv) (by simp)
  | unopened ht hs =>
    obtain ⟨x, hx⟩ := hs.succeeds hf
    exact absurd hx (by simp)
  | opened ht hs =>
    obtain rfl := Except.ok.inj (ht.symm.trans hv)
    have hmissing := hs.isSome_of_created
    rw [key_space] at hmissing
    refine ⟨hadds, ?_, hs.isSome, ?_, ?_⟩
    · rw [hmissing]
      rfl
    · intro hthere
      exact absurd (hmissing.symm.trans hthere) (by simp)
    · intro hthere
      exact absurd (hmissing.symm.trans hthere) (by simp)
  | @supplied t' p c' d ht hs hp =>
    obtain rfl := Except.ok.inj (ht.symm.trans hv)
    have hthere := hs.isSome_of_present
    rw [key_space] at hthere
    obtain ⟨hfault, hall⟩ := hp.completes (hs.failures_eq.trans hf) ho
    have hsupplied : PassResult.supplied { PassResult.start name with
        body := body.toOption, declaration := some t' } p =
          { PassResult.start name with
            body := body.toOption, declaration := some t', created := p.created } := by
      rw [PassResult.supplied, hfault]
    rw [hsupplied]
    refine ⟨hadds, ?_, hp.adds.isSome hs.isSome, ?_, ?_⟩
    · rw [hthere]
      rfl
    · intro _ q hq
      exact hall q (Component.mem_all q) hq
    · intro _ hbefore
      have hidle := hp.idle fun q _ hq => by
        rw [hs.objects_of_present]
        exact hbefore q hq
      exact ⟨rfl, hidle.1, hidle.2.trans hs.objects_of_present⟩

/-- A pass advances the tenant, and the next one can look after it again. -/
theorem Tended.pass {op : Operator} {c d : MemoryCluster} {n : String} {body : Json}
    {t : Declaration} {r : PassResult} (h : Tended c n body t)
    (hr : Reconciles op (.str n) c r d) :
    ∃ fs v stored, Tended d n stored (t.renewed fs v) ∧ Advances op t c r d := by
  obtain ⟨fs, v, stored, c', h', hobjects, hm⟩ := h.maintains hr
  refine ⟨fs, v, stored, ?_, (hm.advances h'.unfailing h'.valid h'.owned).of_renewed hobjects⟩
  refine ⟨hm.failures_eq.trans h'.unfailing, ?_, h'.valid, h'.named, h'.unmarked, h'.owned,
    h'.versioned⟩
  rw [hm.tenants_eq]
  exact h'.stored

/-- Whatever objects there are before, two passes for a tenant bring about all that it is to have,
and only that; a third one has nothing left to make. -/
theorem reconcile_converges (op : Operator) {n : String} {w : World MemoryCluster} {body : Json}
    {t : Declaration} (h : Tended w.cluster n body t) :
    let first := op.reconcile (.str n) w
    let second := op.reconcile (.str n) first.2
    let third := op.reconcile (.str n) second.2
    let space := Names.spaceKey op.settings n
    (first.1.outcome = if (w.cluster.objects.get? space).isSome then .converged else .requeue) ∧
    second.1.outcome = .converged ∧
    (second.2.cluster.objects.get? space).isSome ∧
    (∀ p : Component, p.isNeeded t = true →
      (second.2.cluster.objects.get? (p.keyFor op.settings t)).isSome) ∧
    (∀ k m, w.cluster.objects.get? k = some m → second.2.cluster.objects.get? k = some m) ∧
    (∀ k m, w.cluster.objects.get? k = none → second.2.cluster.objects.get? k = some m →
      m.IsOf op.settings t ∧ m.key = k) ∧
    third.1.outcome = .converged ∧ third.1.namespaceCreated = false ∧ third.1.created = [] ∧
      third.2.cluster.objects = second.2.cluster.objects := by
  intro first second third space
  obtain ⟨_, _, _, h₁, a₁⟩ := h.pass (reconcile_reconciles op (.str n) w)
  obtain ⟨_, _, _, h₂, a₂⟩ := h₁.pass (reconcile_reconciles op (.str n) first.2)
  obtain ⟨_, _, _, -, a₃⟩ := h₂.pass (reconcile_reconciles op (.str n) second.2)
  have a₂ := a₂.of_renewed rfl
  have a₃ := (a₃.of_renewed rfl : Advances op (t.renewed _ _) _ _ _).of_renewed rfl
  have hspace : space = Names.spaceKey op.settings t.identifier := by
    rw [Declaration.identifier, h.named]
  have hadds := a₁.adds.trans a₂.adds
  have hall := a₂.components a₁.space
  obtain ⟨hopened, hmade, hobjects⟩ := a₃.idle a₂.space hall
  rw [hspace]
  refine ⟨a₁.outcome, ?_, a₂.space, hall, fun _ _ => hadds.keeps, fun _ _ => hadds.new, ?_,
    hopened, hmade, hobjects⟩
  · rw [a₂.outcome, a₁.space]
    rfl
  · rw [a₃.outcome, a₂.space]
    rfl

theorem reconcile_converges_plain :
    let op : Operator := {}
    let w : World MemoryCluster := ⟨.withPlainTenant "a", []⟩
    ∃ body t, Tended w.cluster "a" body t ∧
      let second := op.reconcile (.str "a") (op.reconcile (.str "a") w).2
      second.1.outcome = .converged ∧
      ∀ p : Component, p.isNeeded t = true →
        (second.2.cluster.objects.get? (p.keyFor op.settings t)).isSome := by
  intro op w
  have hkept : (w.cluster.tenants.get? (.text "a")).any (fun kept =>
      (kept.body.metadatum "resourceVersion").isSome &&
        (Declaration.parse kept.body).toOption.any fun t =>
          t.metadata.name == "a" && !t.metadata.isMarked && t.metadata.uid.isSome) = true := by
    decide +kernel
  obtain ⟨kept, hk, hchecks⟩ := (Option.any_eq_true _ _).1 hkept
  rw [Bool.and_eq_true, Option.any_eq_true] at hchecks
  obtain ⟨hversion, t, ht, hchecks⟩ := hchecks
  simp only [Bool.and_eq_true, beq_iff_eq, Bool.not_eq_true'] at hchecks
  obtain ⟨⟨hname, hmarked⟩, huid⟩ := hchecks
  have hparse : Declaration.parse kept.body = .ok t := by
    cases hp : Declaration.parse kept.body with
    | error fault => simp [hp, Except.toOption] at ht
    | ok u => rw [hp] at ht; exact congrArg _ (Option.some.inj ht)
  have h : Tended w.cluster "a" kept.body t :=
    ⟨rfl, ⟨kept, hk, rfl⟩, hparse, hname, hmarked, huid, hversion⟩
  obtain ⟨-, hsecond, -, hall, -⟩ := reconcile_converges op h
  exact ⟨kept.body, t, h, hsecond, hall⟩

end MoodleTenancy
