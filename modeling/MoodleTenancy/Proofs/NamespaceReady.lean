import MoodleTenancy.Proofs.Accounts
import MoodleTenancy.Proofs.Entries

/-!
# What a status says of the namespace

A status says that the namespace is ready because a pass saw it or made it, and no pass takes it
away from a tenant that it writes a status for. Somebody else can take it away. The next pass makes
it again, or else fails and leaves what the status says.

* `Json.SaysNamespaceReady`: what the status says. `MemoryCluster.HasSpace`: what it says it of.
* `Course`: turns of a tenant, and what is lost between them.
* `Reconciles.hasSpace`: a pass that does not fail leaves a namespace.
* `Truthful`: what lasts over a course.
* `namespaceReady_or_lost`: the status after one more turn.
-/

namespace MoodleTenancy
set_option autoImplicit false

/-- A condition of a status says that the namespace is ready. -/
def Json.SaysNamespaceReady (status : Json) : Prop :=
  (status.conditionsOf "NamespaceReady").any
    (fun c => (ofOption (c.get? "status")).isText "True") = true

instance (status : Json) : Decidable status.SaysNamespaceReady :=
  inferInstanceAs (Decidable (_ = true))

namespace MemoryCluster

/-- The namespace of a tenant is there. -/
def HasSpace (s : Settings) (n : String) (c : MemoryCluster) : Prop :=
  (c.objects.get? (Names.spaceKey s n)).isSome = true

instance (s : Settings) (n : String) (c : MemoryCluster) : Decidable (c.HasSpace s n) :=
  inferInstanceAs (Decidable (_ = true))

/-- From the first cluster to the second objects are lost at most. Calls may begin to fail, and may
cease to. -/
structure Loses (c d : MemoryCluster) : Prop where
  tenants : d.tenants = c.tenants
  objects {k : ObjectKey} {m : Manifest} : d.objects.get? k = some m → c.objects.get? k = some m

theorem Loses.emptied (c : MemoryCluster) (key : ObjectKey)
    (failures : Table (Verb × Option Kind) Fault) :
    c.Loses { c.emptied key with failures := failures } where
  tenants := c.emptied_tenants key
  objects {k m} hk := by
    have hthere := (c.get?_emptied key k).symm.trans hk
    split at hthere
    · exact absurd hthere (by simp)
    · exact hthere

end MemoryCluster

/-- Turns of a tenant that came in without a status, however they end. The losses are what was lost
between them, by the clusters before and after. -/
inductive Course (op : Operator) (n : String) :
    List (MemoryCluster × MemoryCluster) → World MemoryCluster → Prop where
  | start {w : World MemoryCluster} {kept : StoredTenant}
    (hk : w.cluster.tenants.get? (.text n) = some kept)
    (hn : kept.body.metadatum "name" = some (.str n)) (hs : kept.body.get? "status" = none) :
    Course op n [] w
  | lost {losses : List (MemoryCluster × MemoryCluster)} {w w' : World MemoryCluster}
    (h : Course op n losses w) (hl : w.cluster.Loses w'.cluster) :
    Course op n (losses ++ [(w.cluster, w'.cluster)]) w'
  | turned {losses : List (MemoryCluster × MemoryCluster)} {w : World MemoryCluster}
    (h : Course op n losses w) (now : Time.Instant) :
    Course op n losses ((op.attend now (.str n)).run w).2

/-- One of the losses took the namespace. -/
def TookSpace (s : Settings) (n : String) (losses : List (MemoryCluster × MemoryCluster)) : Prop :=
  ∃ loss ∈ losses, loss.1.HasSpace s n ∧ ¬ loss.2.HasSpace s n

/-! ## Passes -/

section Passes

variable {op : Operator} {n : String} {c d : MemoryCluster} {r : PassResult}

theorem Maintains.hasSpace {name body : Json} (h : Maintains op (.start name) body c r d)
    (hn : ∀ t, Declaration.parse body = .ok t → t.identifier = n) (hf : r.outcome ≠ .fatal) :
    d.HasSpace op.settings n := by
  have hkey : ∀ {t : Declaration}, Declaration.parse body = .ok t →
      Names.spaceKey op.settings n = (Child.space op.settings t).manifest.key := by
    intro t ht
    rw [key_space, hn t ht]
  cases h with
  | invalid => exact absurd rfl hf
  | unopened => exact absurd rfl hf
  | opened ht h =>
    rw [MemoryCluster.HasSpace, hkey ht]
    exact h.isSome
  | supplied ht h hp =>
    rw [MemoryCluster.HasSpace, hkey ht]
    exact hp.adds.isSome h.isSome

theorem Reconciles.hasSpace (h : Reconciles op (.str n) c r d) (hn : c.KnowsAs n)
    (hb : r.body.isSome = true) (hf : r.outcome ≠ .fatal) : d.HasSpace op.settings n := by
  cases h with
  | guarded hfound hm hd hg h =>
    obtain rfl := hn.name_eq hfound hm
    exact h.hasSpace (fun t ht => identifier_of_parse hm ht) hf
  | newlyGuarded hfound hm hd hg h hr =>
    obtain rfl := hn.name_eq hfound hm
    obtain rfl := h.stored_eq
    exact hr.hasSpace (fun t ht => identifier_of_parse (op.metadataOf_guarded hm _) ht) hf
  | unguarded => exact absurd rfl hf
  | _ => exact absurd hb (by simp [PassResult.start, PassResult.aborted])

theorem CleansUp.stays_marked {kept later : StoredTenant} {m : Metadata} {e : Except Fault Json}
    (h : CleansUp op kept.body m c e d) (hk : c.tenants.get? (.text m.name) = some kept)
    (hm : metadataOf kept.body = .ok m) (hl : d.tenants.get? (.text m.name) = some later) :
    ∃ m', metadataOf later.body = .ok m' ∧ m'.isMarked = m.isMarked := by
  cases h with
  | undeleted hf =>
    obtain rfl := Option.some.inj (hk.symm.trans hl)
    exact ⟨m, hm, rfl⟩
  | deleted hf h =>
    obtain hsame | ⟨-, hnone⟩ | hnew :=
      h.stored_or (by rw [MemoryCluster.emptied_tenants]; exact hk)
    · obtain rfl := Option.some.inj (hsame.symm.trans hl)
      exact ⟨m, hm, rfl⟩
    · exact absurd (hnone.symm.trans hl) (by simp)
    · obtain rfl := Option.some.inj (hnew.symm.trans hl)
      exact ⟨_, metadataOf_withVersion (op.metadataOf_releasedForm hm) _, rfl⟩

/-- A pass for a tenant that is marked for deletion has no body, and leaves the mark. -/
theorem Reconciles.of_hasLeaving (h : Reconciles op (.str n) c r d) (hn : c.KnowsAs n)
    (hc : c.HasLeaving (.str n)) :
    r.body = none ∧ ∀ later, d.tenants.get? (.text n) = some later → d.HasLeaving (.str n) := by
  obtain ⟨key, kept, m, hkey, hk, hm, hd⟩ := hc
  obtain rfl := Except.ok.inj ((TenantKey.of_str n).symm.trans hkey)
  obtain rfl := hn kept m hk hm
  have hsame : d.tenants = c.tenants → d.HasLeaving (.str m.name) := fun htenants =>
    ⟨_, kept, m, hkey, by rw [htenants, hk], hm, hd⟩
  have hcleaned : ∀ {e : Except Fault Json} {later : StoredTenant},
      CleansUp op kept.body m (c.noting (.readingTenant (.str m.name))) e d →
      d.tenants.get? (.text m.name) = some later → d.HasLeaving (.str m.name) := by
    intro e later h hl
    obtain ⟨m', hm', hmarked⟩ := h.stays_marked hk hm hl
    exact ⟨_, later, m', hkey, hl, hm', by rw [hmarked, hd]⟩
  cases h.pursues hk hm with
  | unread hf => exact ⟨rfl, fun _ _ => hsame rfl⟩
  | released hf => exact ⟨rfl, fun _ _ => hsame rfl⟩
  | uncleaned hf hd hg h => exact ⟨rfl, fun _ hl => hcleaned h hl⟩
  | cleaned hf hd hg h => exact ⟨rfl, fun _ hl => hcleaned h hl⟩
  | guarded hf hd' => exact absurd (hd'.symm.trans hd) (by simp)
  | unguarded hf hd' => exact absurd (hd'.symm.trans hd) (by simp)
  | newlyGuarded hf hd' => exact absurd (hd'.symm.trans hd) (by simp)

end Passes

/-! ## Turns -/

/-- What lasts over a course. If the status says that the namespace is ready, then it is there or
was lost, or the tenant is going. -/
structure Truthful (op : Operator) (n : String) (losses : List (MemoryCluster × MemoryCluster))
    (c : MemoryCluster) : Prop where
  named : ∀ kept, c.tenants.get? (.text n) = some kept →
    kept.body.metadatum "name" = some (.str n)
  told : ∀ kept, c.tenants.get? (.text n) = some kept → kept.body.status.SaysNamespaceReady →
    c.HasLeaving (.str n) ∨ c.HasSpace op.settings n ∨ TookSpace op.settings n losses

section Turns

variable {op : Operator} {n : String} {losses : List (MemoryCluster × MemoryCluster)}
  {w : World MemoryCluster}

theorem Truthful.knowsAs {c : MemoryCluster} (h : Truthful op n losses c) : c.KnowsAs n := by
  intro kept m hk hm
  have hname := (metadatum_name hm).symm.trans (h.named kept hk)
  exact Json.str.inj (Option.some.inj hname)

theorem Operator.cluster_attend_of_none (now : Time.Instant)
    (hb : (op.reconcile (.str n) w).1.body = none) :
    ((op.attend now (.str n)).run w).2.cluster = (op.reconcile (.str n) w).2.cluster := by
  obtain ⟨journal, hrun⟩ :=
    op.run_publish (PassResult.patch_of_body_eq_none hb _ now) (op.reconcile (.str n) w).2
  rw [run_attend_str, hrun]

theorem Operator.exists_upkeep {now : Time.Instant} (hn : w.cluster.KnowsAs n)
    {later : StoredTenant}
    (hl : ((op.attend now (.str n)).run w).2.cluster.tenants.get? (.text n) = some later) :
    ∃ before, w.cluster.tenants.get? (.text n) = some before ∧ Upkeep op.guard before later := by
  have hpass := reconcile_reconciles op (.str n) w
  have hkept : KeptUp op.guard (w.cluster.tenants.get? (.text n)) (some later) := by
    rw [← hl, run_attend_str]
    exact (hpass.keptUp hn).published hpass.name_eq now
  generalize w.cluster.tenants.get? (.text n) = before at hkept ⊢
  cases hkept with
  | stored h => exact ⟨_, rfl, h⟩

/-- A turn takes the namespace away only if the tenant is going. -/
theorem Operator.hasSpace_attend {now : Time.Instant} (hn : w.cluster.KnowsAs n)
    (hw : ¬ w.cluster.HasLeaving (.str n)) (hs : w.cluster.HasSpace op.settings n) :
    ((op.attend now (.str n)).run w).2.cluster.HasSpace op.settings n := by
  have hobjects : ((op.attend now (.str n)).run w).2.cluster.objects =
      (op.reconcile (.str n) w).2.cluster.objects := by
    cases hb : (op.reconcile (.str n) w).1.body with
    | none => rw [cluster_attend_of_none now hb]
    | some body => exact (op.attend_writes now hn hb).1
  obtain ⟨m, hm⟩ := Option.isSome_iff_exists.1 hs
  rw [MemoryCluster.HasSpace, hobjects, (reconcile_accounts op (.str n) w hw).1 _ m hm]
  rfl

theorem Operator.hasSpace_attend_of_ne_fatal {now : Time.Instant} (hn : w.cluster.KnowsAs n)
    (hb : (op.reconcile (.str n) w).1.body.isSome = true)
    (hf : (op.reconcile (.str n) w).1.outcome ≠ .fatal) :
    ((op.attend now (.str n)).run w).2.cluster.HasSpace op.settings n := by
  obtain ⟨body, hbody⟩ := Option.isSome_iff_exists.1 hb
  have hobjects := (op.attend_writes now hn hbody).1
  rw [MemoryCluster.HasSpace, hobjects]
  exact (reconcile_reconciles op (.str n) w).hasSpace hn hb hf

/-- A failure says nothing new of the namespace. -/
theorem Operator.conditionsOf_attend_of_fatal {now : Time.Instant} (hn : w.cluster.KnowsAs n)
    (hb : (op.reconcile (.str n) w).1.body.isSome = true)
    (hf : (op.reconcile (.str n) w).1.outcome = .fatal) {before later : StoredTenant}
    (hbefore : w.cluster.tenants.get? (.text n) = some before)
    (hl : ((op.attend now (.str n)).run w).2.cluster.tenants.get? (.text n) = some later) :
    later.body.status.conditionsOf "NamespaceReady" =
      before.body.status.conditionsOf "NamespaceReady" := by
  obtain ⟨body, hbody⟩ := Option.isSome_iff_exists.1 hb
  obtain ⟨-, before', later', hbefore', hl', hwritten⟩ := op.attend_writes now hn hbody
  obtain rfl := Option.some.inj (hbefore.symm.trans hbefore')
  obtain rfl := Option.some.inj (hl.symm.trans hl')
  obtain ⟨hstatus, -⟩ | ⟨happened, new, hwrites⟩ := hwritten
  · rw [hstatus]
  · exact hwrites.namespaceReady hf

theorem Truthful.attend_of_fatal (h : Truthful op n losses w.cluster) {now : Time.Instant}
    (hb : (op.reconcile (.str n) w).1.body.isSome = true)
    (hf : (op.reconcile (.str n) w).1.outcome = .fatal) {later : StoredTenant}
    (hl : ((op.attend now (.str n)).run w).2.cluster.tenants.get? (.text n) = some later)
    (hready : later.body.status.SaysNamespaceReady) :
    ((op.attend now (.str n)).run w).2.cluster.HasSpace op.settings n ∨
      (¬ w.cluster.HasSpace op.settings n ∧ TookSpace op.settings n losses) := by
  obtain ⟨before, hbefore, -⟩ := Operator.exists_upkeep h.knowsAs hl
  rw [Json.SaysNamespaceReady,
    Operator.conditionsOf_attend_of_fatal h.knowsAs hb hf hbefore hl] at hready
  have hstays : ¬ w.cluster.HasLeaving (.str n) := by
    intro hleaving
    have hpass := reconcile_reconciles op (.str n) w
    rw [(hpass.of_hasLeaving h.knowsAs hleaving).1] at hb
    exact absurd hb (by decide)
  by_cases hspace : w.cluster.HasSpace op.settings n
  · exact .inl (Operator.hasSpace_attend h.knowsAs hstays hspace)
  · obtain hleaving | hspace' | htook := h.told before hbefore hready
    · exact absurd hleaving hstays
    · exact absurd hspace' hspace
    · exact .inr ⟨hspace, htook⟩

theorem Truthful.attend (h : Truthful op n losses w.cluster) (now : Time.Instant) :
    Truthful op n losses ((op.attend now (.str n)).run w).2.cluster where
  named later hl := by
    obtain ⟨before, hbefore, hup⟩ := Operator.exists_upkeep h.knowsAs hl
    exact (hup.metadata "name" (by decide)).trans (h.named before hbefore)
  told later hl hsays := by
    have hpass := reconcile_reconciles op (.str n) w
    cases hb : (op.reconcile (.str n) w).1.body with
    | some body =>
      have hsome : (op.reconcile (.str n) w).1.body.isSome = true := by rw [hb]; rfl
      by_cases hf : (op.reconcile (.str n) w).1.outcome = .fatal
      · obtain hspace | ⟨-, htook⟩ := h.attend_of_fatal hsome hf hl hsays
        · exact .inr (.inl hspace)
        · exact .inr (.inr htook)
      · exact .inr (.inl (Operator.hasSpace_attend_of_ne_fatal h.knowsAs hsome hf))
    | none =>
      -- Nothing is reported, so the status says what it said before.
      obtain ⟨before, hbefore, -⟩ := Operator.exists_upkeep h.knowsAs hl
      have hcluster := Operator.cluster_attend_of_none now hb
      by_cases hleaving : w.cluster.HasLeaving (.str n)
      · rw [hcluster] at hl ⊢
        exact .inl ((hpass.of_hasLeaving h.knowsAs hleaving).2 later hl)
      · rw [hcluster] at hl
        rw [hpass.status_eq h.knowsAs hbefore hl] at hsays
        obtain habsurd | hspace | htook := h.told before hbefore hsays
        · exact absurd habsurd hleaving
        · exact .inr (.inl (Operator.hasSpace_attend h.knowsAs hleaving hspace))
        · exact .inr (.inr htook)

theorem Truthful.lost {w' : World MemoryCluster} (h : Truthful op n losses w.cluster)
    (hl : w.cluster.Loses w'.cluster) :
    Truthful op n (losses ++ [(w.cluster, w'.cluster)]) w'.cluster where
  named kept hk := h.named kept (by rw [← hl.tenants, hk])
  told kept hk hsays := by
    obtain ⟨key, stored, m, hkey, hstored, hm⟩ | hspace | ⟨loss, hloss, htook⟩ :=
      h.told kept (by rw [← hl.tenants, hk]) hsays
    · exact .inl ⟨key, stored, m, hkey, by rw [hl.tenants, hstored], hm⟩
    · by_cases hspace' : w'.cluster.HasSpace op.settings n
      · exact .inr (.inl hspace')
      · exact .inr (.inr ⟨_, List.mem_append_right _ (List.mem_singleton.2 rfl), hspace, hspace'⟩)
    · exact .inr (.inr ⟨loss, List.mem_append_left _ hloss, htook⟩)

theorem Course.truthful (h : Course op n losses w) : Truthful op n losses w.cluster := by
  induction h with
  | start hk hn hs =>
    refine ⟨fun later hl => ?_, fun later hl hsays => ?_⟩
    · rw [← Option.some.inj (hk.symm.trans hl), hn]
    · -- A status that is not there says nothing.
      obtain rfl := Option.some.inj (hk.symm.trans hl)
      rw [Json.SaysNamespaceReady, Json.status, hs] at hsays
      exact absurd hsays (by decide)
  | lost _ hl ih => exact ih.lost hl
  | turned _ now ih => exact ih.attend now

end Turns

/-- After every turn whose pass has a body, a status that says that the namespace is ready says the
truth; or else the pass failed, the namespace had been lost before it, and what is said of it is
what was said then. A pass that does not fail leaves a namespace in any case. -/
theorem namespaceReady_or_lost (op : Operator) {n : String}
    {losses : List (MemoryCluster × MemoryCluster)} {w : World MemoryCluster}
    (h : Course op n losses w) (now : Time.Instant)
    (hb : (op.reconcile (.str n) w).1.body.isSome = true) :
    let r := (op.reconcile (.str n) w).1
    let after := ((op.attend now (.str n)).run w).2.cluster
    ∃ before later, w.cluster.tenants.get? (.text n) = some before ∧
      after.tenants.get? (.text n) = some later ∧
      (r.outcome ≠ .fatal → after.HasSpace op.settings n) ∧
      (later.body.status.SaysNamespaceReady → after.HasSpace op.settings n ∨
        (r.outcome = .fatal ∧ ¬ w.cluster.HasSpace op.settings n ∧
          later.body.status.conditionsOf "NamespaceReady" =
            before.body.status.conditionsOf "NamespaceReady" ∧
          TookSpace op.settings n losses)) := by
  intro r after
  have htruthful := h.truthful
  have hn := htruthful.knowsAs
  obtain ⟨body, hbody⟩ := Option.isSome_iff_exists.1 hb
  obtain ⟨-, before, later, hbefore, hlater, -⟩ := op.attend_writes now hn hbody
  have hsafe : r.outcome ≠ .fatal → after.HasSpace op.settings n :=
    Operator.hasSpace_attend_of_ne_fatal hn hb
  refine ⟨before, later, hbefore, hlater, hsafe, fun hsays => ?_⟩
  by_cases hf : r.outcome = .fatal
  · obtain hspace | ⟨hlost, htook⟩ := htruthful.attend_of_fatal hb hf hlater hsays
    · exact .inl hspace
    · have hsame := Operator.conditionsOf_attend_of_fatal hn hb hf hbefore hlater
      exact .inr ⟨hf, hlost, hsame, htook⟩
  · exact .inl (hsafe hf)

/-- A plain tenant whose namespace is made and lost, and made again by the next turn. -/
theorem namespaceReady_or_lost_remade :
    let op : Operator := {}
    let first : World MemoryCluster :=
      ((op.attend 0 (.str "a")).run { cluster := .joinedBy {} [plainTenant "a"] }).2
    let w : World MemoryCluster := { first with cluster :=
      { first.cluster.emptied (Names.spaceKey op.settings "a") with failures := [] } }
    let after := ((op.attend 60 (.str "a")).run w).2.cluster
    Course op "a" [(first.cluster, w.cluster)] w ∧ ¬ w.cluster.HasSpace op.settings "a" ∧
      ∃ later, after.tenants.get? (.text "a") = some later ∧
        later.body.status.SaysNamespaceReady ∧ after.HasSpace op.settings "a" := by
  intro op first w after
  have hcourse : Course op "a" [(first.cluster, w.cluster)] w :=
    .lost (.turned (.start rfl rfl rfl) 0) (.emptied _ _ _)
  have hturn : ¬ w.cluster.HasSpace op.settings "a" ∧
      (op.reconcile (.str "a") w).1.body.isSome = true ∧
      (op.reconcile (.str "a") w).1.outcome ≠ .fatal ∧
      ∀ later ∈ after.tenants.get? (.text "a"), later.body.status.SaysNamespaceReady := by
    decide +kernel
  obtain ⟨hlost, hb, hf, hsays⟩ := hturn
  obtain ⟨-, later, -, hlater, hspace, -⟩ := namespaceReady_or_lost op hcourse 60 hb
  exact ⟨hcourse, hlost, later, hlater, hsays later hlater, hspace hf⟩

/-- A plain tenant whose namespace is made and lost, and cannot be made again by the next turn. That
turn writes its report, and the status goes on saying that the namespace is ready. -/
theorem namespaceReady_lost_unmade :
    let op : Operator := {}
    let first : World MemoryCluster :=
      ((op.attend 0 (.str "a")).run { cluster := .joinedBy {} [plainTenant "a"] }).2
    let w : World MemoryCluster := { first with cluster :=
      { first.cluster.emptied (Names.spaceKey op.settings "a") with
        failures := [((.create, some .namespaceKind), .api (some 500) none)] } }
    let turn := (op.attend 60 (.str "a")).run w
    Course op "a" [(first.cluster, w.cluster)] w ∧ ∃ r later, turn.1 = .ok r ∧
      r.body.isSome = true ∧ r.outcome = .fatal ∧
      (r.patch op.settings 60).toOption.any (Option.any fun patch =>
        ((MemoryCluster.patchTenantStatus (.str "a") patch).run
          (op.reconcile (.str "a") w).2.cluster).1.isOk) = true ∧
      turn.2.cluster.tenants.get? (.text "a") = some later ∧
      later.body.status.SaysNamespaceReady ∧ ¬ turn.2.cluster.HasSpace op.settings "a" := by
  intro op first w turn
  have hcourse : Course op "a" [(first.cluster, w.cluster)] w :=
    .lost (.turned (.start rfl rfl rfl) 0) (.emptied _ _ _)
  have hchecks : (turn.1.toOption.any fun r => r.body.isSome && decide (r.outcome = .fatal) &&
        (r.patch op.settings 60).toOption.any (Option.any fun patch =>
          ((MemoryCluster.patchTenantStatus (.str "a") patch).run
            (op.reconcile (.str "a") w).2.cluster).1.isOk)) = true ∧
      (turn.2.cluster.tenants.get? (.text "a")).any
        (fun later => decide later.body.status.SaysNamespaceReady) = true ∧
      ¬ turn.2.cluster.HasSpace op.settings "a" := by
    decide +kernel
  rw [Option.any_eq_true, Option.any_eq_true] at hchecks
  obtain ⟨⟨r, hr, hresult⟩, ⟨later, hlater, hsays⟩, hgone⟩ := hchecks
  simp only [Bool.and_eq_true, decide_eq_true_iff] at hresult hsays
  exact ⟨hcourse, r, later, eq_ok_of_toOption hr, hresult.1.1, hresult.1.2, hresult.2, hlater,
    hsays, hgone⟩

end MoodleTenancy
