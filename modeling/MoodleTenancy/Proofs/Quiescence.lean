import MoodleTenancy.Proofs.Convergence
import MoodleTenancy.Proofs.Isolation
import MoodleTenancy.Proofs.Reports

/-!
# Quiescence

Once a turn of a tenant converges and its report is written or there is none, the turns behind it
read and do nothing else, whatever the status said before and whatever time it is.

* `MemoryCluster.Shows`: a cluster answers a look for an object with one.
* `MemoryCluster.behind`: a cluster after some calls that changed nothing.
* `Settled`: a tenant that a pass finds all of, without a failure.
* `Settled.reconciles`: such a pass reads only.
* `Reconciles.settles`: a pass that converges leaves such a tenant behind.
* `Rests`: a settled tenant whose status says all there is to say.
* `Settled.rests_of_publish`: a report on a settled tenant brings it there.
* `Rests.attends`, `Rests.attendAt`: one turn of such a tenant, and any number of them.
* `attend_quiesces`: a turn that converges, and those behind it.
-/

namespace MoodleTenancy
set_option autoImplicit false

/-! ## Calls that change nothing -/

namespace MemoryCluster

/-- A look for the object of a key is answered with one. -/
def Shows (c : MemoryCluster) (key : ObjectKey) : Prop :=
  c.failureOf (.reading key) = none ∧ (c.objects.get? key).isSome = true

def behind (c : MemoryCluster) (calls : List Call) : MemoryCluster :=
  { c with calls := c.calls ++ calls }

theorem behind_nil (c : MemoryCluster) : c.behind [] = c := by
  simp [behind]

theorem behind_behind (c : MemoryCluster) (calls more : List Call) :
    (c.behind calls).behind more = c.behind (calls ++ more) := by
  simp [behind]

theorem behind_noting (c : MemoryCluster) (call : Call) (calls : List Call) :
    (c.noting call).behind calls = c.behind (call :: calls) := by
  simp [behind, noting]

end MemoryCluster

theorem Supplies.of_shows {m : Manifest} {c d : MemoryCluster} {e : Except Fault Supplied}
    (h : Supplies m c e d) (hs : c.Shows m.key) :
    e = .ok .present ∧ d = c.noting (.reading m.key) := by
  obtain ⟨hread, hthere⟩ := hs
  cases h with
  | unread hf => exact absurd (hf.symm.trans hread) (by simp)
  | present => exact ⟨rfl, rfl⟩
  | uncreated hf hm => simp [hm] at hthere
  | created hf hm => simp [hm] at hthere

theorem Supplies.shows {m : Manifest} {c d : MemoryCluster} {x : Supplied}
    (h : Supplies m c (.ok x) d) : d.Shows m.key := by
  refine ⟨?_, h.isSome⟩
  cases h with
  | present hf hm => exact hf
  | created hf hm hc => exact hf

/-- What a component needs for a pass to find it. -/
structure Component.Found (s : Settings) (t : Declaration) (c : MemoryCluster) (p : Component) :
    Prop where
  built : ∃ child, p.build s t (some (Names.space s t.identifier)) = .ok child
  shown : c.Shows (p.keyFor s t)

theorem Component.Found.of_eq {s : Settings} {t : Declaration} {c d : MemoryCluster} {p : Component}
    (h : p.Found s t c) (hf : d.failures = c.failures) (ho : d.objects = c.objects) :
    p.Found s t d := by
  obtain ⟨hbuilt, hread, hthere⟩ := h
  refine ⟨hbuilt, ?_, ?_⟩
  · rw [MemoryCluster.failureOf, hf]
    exact hread
  · rw [ho, hthere]

namespace SuppliesAll

variable {s : Settings} {t : Declaration} {ps : List Component} {c d : MemoryCluster}
  {r : Progress}

theorem shows (h : SuppliesAll s t (Names.space s t.identifier) ps c r d) {key : ObjectKey}
    (hs : c.Shows key) : d.Shows key := by
  have hfailures : d.failures = c.failures := h.lasts (.failures _) rfl
  refine ⟨?_, h.adds.isSome hs.2⟩
  rw [MemoryCluster.failureOf, hfailures]
  exact hs.1

theorem of_found (h : SuppliesAll s t (Names.space s t.identifier) ps c r d)
    (hall : ∀ p ∈ ps, p.isNeeded t = true → p.Found s t c) :
    r = {} ∧ ∃ reads, d = c.behind reads ∧ ∀ call ∈ reads, call.verb = .read := by
  have hkey : ∀ {p : Component} {child : Child} {c : MemoryCluster}, p.Found s t c →
      p.build s t (some (Names.space s t.identifier)) = .ok child →
      c.Shows child.manifest.key := by
    intro p child c hfound hb
    rw [show child.manifest.key = _ from Component.key_of_build hb]
    exact hfound.shown
  induction h with
  | @done c => exact ⟨rfl, [], c.behind_nil.symm, by simp⟩
  | skipped hp h ih => exact ih fun q hq => hall q (List.mem_cons_of_mem _ hq)
  | unbuilt hp hb =>
    obtain ⟨child, hok⟩ := (hall _ List.mem_cons_self hp).built
    exact absurd (hb.symm.trans hok) (by simp)
  | failed hp hb h =>
    have hthere := h.of_shows (hkey (hall _ List.mem_cons_self hp) hb)
    exact absurd hthere.1 (by simp)
  | @present p rest c d e child r hp hb h hr ih =>
    obtain ⟨-, rfl⟩ := h.of_shows (hkey (hall _ List.mem_cons_self hp) hb)
    have hrest : ∀ q ∈ rest, q.isNeeded t = true →
        q.Found s t (c.noting (.reading child.manifest.key)) := by
      intro q hq hneeded
      exact (hall q (List.mem_cons_of_mem _ hq) hneeded).of_eq rfl rfl
    obtain ⟨hresult, reads, hd, hreads⟩ := ih hrest
    refine ⟨hresult, _, hd.trans (c.behind_noting _ _), ?_⟩
    exact List.forall_mem_cons.2 ⟨rfl, hreads⟩
  | created hp hb h hr ih =>
    have hthere := h.of_shows (hkey (hall _ List.mem_cons_self hp) hb)
    exact absurd hthere.1 (by simp)

theorem found (h : SuppliesAll s t (Names.space s t.identifier) ps c r d) (hr : r.fault = none) :
    ∀ p ∈ ps, p.isNeeded t = true → p.Found s t d := by
  -- A component that was supplied is there still after those behind it.
  have hhead : ∀ {p : Component} {rest : List Component} {c d e : MemoryCluster} {child : Child}
      {x : Supplied} {r : Progress},
      p.build s t (some (Names.space s t.identifier)) = .ok child →
      Supplies child.manifest c (.ok x) d →
      SuppliesAll s t (Names.space s t.identifier) rest d r e → p.Found s t e := by
    intro p rest c d e child x r hb hs hrest
    have hshown := hrest.shows hs.shows
    rw [show child.manifest.key = _ from Component.key_of_build hb] at hshown
    exact ⟨⟨child, hb⟩, hshown⟩
  induction h with
  | done => simp
  | skipped hp h ih =>
    refine List.forall_mem_cons.2 ⟨?_, ih hr⟩
    intro hneeded
    exact absurd (hp.symm.trans hneeded) (by simp)
  | unbuilt hp hb => exact absurd hr (by simp)
  | failed hp hb h => exact absurd hr (by simp)
  | present hp hb h hrest ih => exact List.forall_mem_cons.2 ⟨fun _ => hhead hb h hrest, ih hr⟩
  | created hp hb h hrest ih => exact List.forall_mem_cons.2 ⟨fun _ => hhead hb h hrest, ih hr⟩

end SuppliesAll

/-! ## Settled tenants -/

/-- A valid and guarded tenant that is not being deleted, all of which a pass finds. -/
structure Settled (op : Operator) (c : MemoryCluster) (n : String) (body : Json) (t : Declaration) :
    Prop where
  answered : c.failureOf (.readingTenant (.str n)) = none
  stored : ∃ kept, c.tenants.get? (.text n) = some kept ∧ kept.body = body
  valid : Declaration.parse body = .ok t
  unmarked : t.metadata.isMarked = false
  guarded : t.metadata.finalizers.contains op.guard = true
  space : c.Shows (Names.spaceKey op.settings t.identifier)
  components (p : Component) : p.isNeeded t = true → p.Found op.settings t c

theorem toOption_of_parse {body : Json} {t : Declaration} (h : Declaration.parse body = .ok t) :
    body.toOption = some body := by
  obtain ⟨fields, rfl, -⟩ := parse_eq_ok.1 h
  rfl

namespace Settled

variable {op : Operator} {c d : MemoryCluster} {n : String} {body : Json} {t : Declaration}
  {r : PassResult}

theorem maintains (h : Settled op c n body t)
    (hm : Maintains op (.start (.str n)) body (c.noting (.readingTenant (.str n))) r d) :
    r = .ready (.str n) body t [] ∧ ∃ reads, d = c.behind reads ∧
      ∀ call ∈ reads, call.verb = .readTenant ∨ call.verb = .read := by
  have hspace : (c.noting (.readingTenant (.str n))).Shows
      (Child.space op.settings t).manifest.key := h.space
  cases hm with
  | invalid ht => exact absurd (ht.symm.trans h.valid) (by simp)
  | unopened ht hs =>
    obtain rfl := Except.ok.inj (ht.symm.trans h.valid)
    exact absurd (hs.of_shows hspace).1 (by simp)
  | opened ht hs =>
    obtain rfl := Except.ok.inj (ht.symm.trans h.valid)
    exact absurd (hs.of_shows hspace).1 (by simp)
  | supplied ht hs hp =>
    obtain rfl := Except.ok.inj (ht.symm.trans h.valid)
    obtain ⟨-, rfl⟩ := hs.of_shows hspace
    obtain ⟨rfl, reads, rfl, hreads⟩ := hp.of_found fun p _ hneeded =>
      (h.components p hneeded).of_eq rfl rfl
    rw [toOption_of_parse h.valid, MemoryCluster.behind_noting, MemoryCluster.behind_noting]
    refine ⟨rfl, _, rfl, ?_⟩
    exact List.forall_mem_cons.2 ⟨.inl rfl, List.forall_mem_cons.2 ⟨.inr rfl, fun call hcall =>
      .inr (hreads call hcall)⟩⟩

theorem reconciles (h : Settled op c n body t) (hr : Reconciles op (.str n) c r d) :
    r = .ready (.str n) body t [] ∧ ∃ reads, d = c.behind reads ∧
      ∀ call ∈ reads, call.verb = .readTenant ∨ call.verb = .read := by
  obtain ⟨kept, hkept, rfl⟩ := h.stored
  have hpursued := hr.pursues hkept (metadataOf_of_parse h.valid)
  exact h.maintains (hpursued.maintains h.answered h.unmarked h.guarded)

theorem rewritten (h : Settled op c n body t) {kept : StoredTenant} (name patch status : Json) :
    Settled op ((c.patching name patch).rewritten (.text n) kept (body.set "status" status)) n
      (body.set "status" status) t where
  answered := h.answered
  stored := ⟨_, Table.get?_insert_self _ _ _, rfl⟩
  valid := parse_set_status h.valid status
  unmarked := h.unmarked
  guarded := h.guarded
  space := h.space
  components p hneeded := (h.components p hneeded).of_eq rfl rfl

end Settled

/-! ## The first turn -/

section First

variable {op : Operator} {c d : MemoryCluster} {n : String} {body : Json} {r : PassResult}

theorem Maintains.settles (h : Maintains op (.start (.str n)) body c r d)
    (hc : r.outcome = .converged) (ha : c.failureOf (.readingTenant (.str n)) = none)
    {kept : StoredTenant} (hk : c.tenants.get? (.text n) = some kept) (hbody : kept.body = body)
    {m : Metadata} (hm : metadataOf body = .ok m) (hd : m.isMarked = false)
    (hg : m.finalizers.contains op.guard = true) :
    ∃ t created, r = .ready (.str n) body t created ∧ t.identifier = m.name ∧
      Settled op d n body t := by
  have hfailures := h.failures_eq
  have htenants := h.tenants_eq
  cases h with
  | invalid ht => exact absurd hc (by simp [PassResult.aborted])
  | unopened ht hs => exact absurd hc (by simp [PassResult.aborted])
  | opened ht hs => exact absurd hc (by simp [PassResult.opened])
  | @supplied t p c' _ ht hs hp =>
    have hfault : p.fault = none := by
      cases hf : p.fault with
      | none => rfl
      | some fault => exact absurd hc (by simp [PassResult.supplied, hf, PassResult.aborted])
    obtain rfl := Except.ok.inj (hm.symm.trans (metadataOf_of_parse ht))
    refine ⟨t, p.created, ?_, rfl, ?_, ⟨kept, by rw [htenants, hk], hbody⟩, ht, hd, hg, ?_, ?_⟩
    · rw [PassResult.supplied, hfault, toOption_of_parse ht]
      rfl
    · rw [MemoryCluster.failureOf, hfailures]
      exact ha
    · exact hp.shows hs.shows
    · intro q hneeded
      exact hp.found hfault q (Component.mem_all q) hneeded

theorem Json.isProper_setMetadata {body v : Json} (h : body.isProper = true)
    (hv : v.isProper = true) (key : String) : (body.setMetadata key v).isProper = true := by
  cases body with
  | obj fields => exact isProper_setOf h (isProper_setOf (isProper_ofOption h _) hv _) _
  | _ => exact h

theorem Json.isProper_strings (ss : List String) : (Json.arr (ss.map .str)).isProper = true := by
  refine properItems_iff.2 fun j hj => ?_
  obtain ⟨_, -, rfl⟩ := List.mem_map.1 hj
  rfl

theorem Operator.isProper_guarded (op : Operator) (hp : body.isProper = true) (m : Metadata)
    (c : MemoryCluster) : ((op.guardedForm body m).withVersion c.version).isProper = true := by
  rw [guardedForm, replaceFinalizers_eq]
  exact Json.isProper_setMetadata (Json.isProper_setMetadata hp (Json.isProper_strings _) _) rfl _

theorem Reconciles.settles (hr : Reconciles op (.str n) c r d) (hn : c.KnowsAs n)
    (hc : r.outcome = .converged) (hb : r.body.isSome = true) :
    ∃ kept after t created, c.tenants.get? (.text n) = some kept ∧
      r = .ready (.str n) after t created ∧ t.identifier = n ∧ Settled op d n after t ∧
      (kept.body.isProper = true → after.isProper = true) := by
  cases hr with
  | absent => exact absurd hb (by simp [PassResult.start])
  | released => exact absurd hb (by simp [PassResult.start])
  | cleaned => exact absurd hb (by simp [PassResult.start])
  | guarded hf hm hd hg h =>
    obtain rfl := hn.name_eq hf hm
    obtain ⟨kept, hk, rfl⟩ := hf.exists_kept
    obtain ⟨t, created, hr, ht, hs⟩ := h.settles hc hf.answered hk rfl hm hd hg
    exact ⟨kept, _, t, created, hk, hr, ht, hs, id⟩
  | @newlyGuarded body stored m r d e hf hm hd hg hrep h =>
    obtain rfl := hn.name_eq hf hm
    obtain ⟨kept, hk, rfl⟩ := hf.exists_kept
    obtain rfl := hrep.stored_eq
    -- What stands under the name now is the guarded form, and the pass goes on with that.
    obtain ⟨current, -, hthere⟩ := hrep.get?_self (op.isReleased_guarded hm _)
    have hanswered : d.failureOf (.readingTenant (.str m.name)) = none := by
      rw [MemoryCluster.failureOf, hrep.failures_eq]
      exact hf.answered
    have hguard : (m.finalizers ++ [op.guard]).contains op.guard = true := by simp
    obtain ⟨t, created, hr, ht, hs⟩ :=
      h.settles hc hanswered hthere rfl (op.metadataOf_guarded hm _) hd hguard
    exact ⟨kept, _, t, created, hk, hr, ht, hs, fun hp => op.isProper_guarded hp m _⟩
  | _ => exact absurd hc (by simp [PassResult.aborted])

end First

/-! ## Turns that come to rest -/

/-- A settled tenant whose status says all there is to say. -/
def Rests (op : Operator) (n : String) (t : Declaration) (c : MemoryCluster) : Prop :=
  ∃ body, Settled op c n body t ∧ SaysReady (Names.space op.settings n) t body

theorem Rests.behind {op : Operator} {n : String} {t : Declaration} {c : MemoryCluster}
    (h : Rests op n t c) (calls : List Call) : Rests op n t (c.behind calls) := by
  obtain ⟨body, ⟨hanswered, hstored, hvalid, hunmarked, hguarded, hspace, hcomponents⟩, hsays⟩ := h
  exact ⟨body, ⟨hanswered, hstored, hvalid, hunmarked, hguarded, hspace,
    fun p hneeded => (hcomponents p hneeded).of_eq rfl rfl⟩, hsays⟩

/-- Turns of a tenant, one after the other. -/
def Operator.attendAt (op : Operator) (n : String) (times : List Time.Instant)
    (w : World MemoryCluster) : World MemoryCluster :=
  times.foldl (fun w now => ((op.attend now (.str n)).run w).2) w

theorem Operator.attendAt_cons (op : Operator) (n : String) (now : Time.Instant)
    (later : List Time.Instant) (w : World MemoryCluster) :
    op.attendAt n (now :: later) w = op.attendAt n later ((op.attend now (.str n)).run w).2 :=
  rfl

section Reports

variable {op : Operator} {now : Time.Instant} {c : MemoryCluster} {n : String} {body : Json}
  {t : Declaration} {created : List String}

theorem MemoryCluster.statusFields_eq {status : Json} {fields kept : Fields}
    (hs : body.field "status" = .ok status) (hf : status.orElse (.obj []) = .obj fields)
    (hk : statusFields body = .ok kept) : kept = fields := by
  cases body with
  | obj all =>
    obtain rfl := Except.ok.inj hs
    rw [statusFields, Json.get?_obj] at hk
    cases hg : Fields.get? "status" all with
    | none =>
      rw [hg] at hk hf
      obtain rfl := Except.ok.inj hk
      exact Json.obj.inj hf
    | some v =>
      rw [hg] at hk hf
      cases v with
      | obj there =>
        obtain rfl := Except.ok.inj hk
        exact Json.obj.inj ((Json.orElse_obj there).symm.trans hf)
      | _ => exact absurd hk (by simp)
  | _ => exact absurd hs (by simp [Json.field])

theorem Settled.rests_of_patch (h : Settled op c n body t) (hp : body.isProper = true)
    {patch : Json}
    (hpatch : (PassResult.ready (.str n) body t created).patch op.settings now = .ok (some patch))
    (hw : ((MemoryCluster.patchTenantStatus (.str n) patch).run c).1 = .ok ()) :
    Rests op n t ((MemoryCluster.patchTenantStatus (.str n) patch).run c).2 := by
  obtain ⟨status, fields, changes, hstatus, hfields, rfl, hsays⟩ :=
    PassResult.saysReady_of_patch hp hpatch
  obtain ⟨kept, hkept, rfl⟩ := h.stored
  rw [MemoryCluster.run_patchTenantStatus, TenantKey.of_str] at hw ⊢
  cases hfailure : c.failures.get? (.patchTenantStatus, none) with
  | some fault => simp [hfailure] at hw
  | none =>
    simp only [hfailure, hkept] at hw ⊢
    cases hthere : MemoryCluster.statusFields kept.body with
    | error fault => simp [hthere] at hw
    | ok there =>
      -- The patch is laid over the fields that it was made of.
      obtain rfl := MemoryCluster.statusFields_eq hstatus hfields hthere
      exact ⟨_, h.rewritten _ _ _, hsays⟩

theorem Settled.rests_of_publish {w w' : World MemoryCluster} (h : Settled op w.cluster n body t)
    (hp : body.isProper = true)
    (hrun : (op.publish now (.ready (.str n) body t created)).run w = (.ok (), w'))
    (hw : ∀ patch, (PassResult.ready (.str n) body t created).patch op.settings now =
        .ok (some patch) →
      ((MemoryCluster.patchTenantStatus (.str n) patch).run w.cluster).1 = .ok ()) :
    Rests op n t w'.cluster := by
  cases hpatch : (PassResult.ready (.str n) body t created).patch op.settings now with
  | error fault =>
    rw [Operator.run_publish_of_error hpatch] at hrun
    exact absurd (congrArg Prod.fst hrun) (by simp)
  | ok patch =>
    obtain ⟨journal, hpublish⟩ := Operator.run_publish hpatch w
    rw [hrun] at hpublish
    cases patch with
    | none =>
      obtain rfl : w' = w := congrArg Prod.snd hpublish
      exact ⟨body, h, PassResult.saysReady_of_patch_eq_none hp hpatch⟩
    | some patch =>
      obtain rfl := congrArg Prod.snd hpublish
      exact h.rests_of_patch hp hpatch (hw patch hpatch)

end Reports

section Turns

variable {op : Operator} {now : Time.Instant} {n : String} {t : Declaration} {r : PassResult}
  {w w' : World MemoryCluster}

theorem Operator.attend_eq_ok (h : (op.attend now (.str n)).run w = (.ok r, w')) :
    r = (op.reconcile (.str n) w).1 ∧
      (op.publish now r).run (op.reconcile (.str n) w).2 = (.ok (), w') := by
  rw [run_attend_str, Prod.mk.injEq] at h
  obtain ⟨hanswer, hafter⟩ := h
  obtain ⟨_, hdone, rfl⟩ := Except.map_eq_ok_iff.1 hanswer
  exact ⟨rfl, Prod.ext hdone hafter⟩

theorem Rests.attends (h : Rests op n t w.cluster) (now : Time.Instant) :
    ∃ body w' reads, (op.attend now (.str n)).run w = (.ok (.ready (.str n) body t []), w') ∧
      (PassResult.ready (.str n) body t []).patch op.settings now = .ok none ∧
      (∀ call ∈ reads, call.verb = .readTenant ∨ call.verb = .read) ∧
      w'.cluster = w.cluster.behind reads := by
  obtain ⟨body, hsettled, hsays⟩ := h
  obtain ⟨hr, reads, hd, hreads⟩ := hsettled.reconciles (reconcile_reconciles op (.str n) w)
  have hpatch : (PassResult.ready (.str n) body t []).patch op.settings now = .ok none :=
    PassResult.patch_eq_none_of_saysReady hsays now
  obtain ⟨journal, hpublish⟩ := Operator.run_publish hpatch (op.reconcile (.str n) w).2
  refine ⟨body, (op.reconcile (.str n) w).2, reads, ?_, hpatch, hreads, hd⟩
  rw [Operator.run_attend_str, hr, hpublish]
  rfl

/-- However many turns follow, and whenever they are, they make no difference but their reads. -/
theorem Rests.attendAt (h : Rests op n t w.cluster) (times : List Time.Instant) :
    ∃ reads, (∀ call ∈ reads, call.verb = .readTenant ∨ call.verb = .read) ∧
      (op.attendAt n times w).cluster = w.cluster.behind reads := by
  induction times generalizing w with
  | nil => exact ⟨[], by simp, w.cluster.behind_nil.symm⟩
  | cons now later ih =>
    obtain ⟨body, w', reads, hrun, -, hreads, hw'⟩ := h.attends now
    obtain ⟨more, hmore, hlater⟩ := ih (hw' ▸ h.behind reads)
    refine ⟨reads ++ more, ?_, ?_⟩
    · intro call hcall
      exact (List.mem_append.1 hcall).elim (hreads call) (hmore call)
    · rw [Operator.attendAt_cons, hrun, hlater, hw', MemoryCluster.behind_behind]

end Turns

/-- Once a turn of a tenant converges, and its report is written or there is none, the next one
reads and does nothing else, at any time, and so do all that follow. A cluster keeps what JSON text
can give it, which is proper. -/
theorem attend_quiesces (op : Operator) {n : String} {now : Time.Instant}
    {w w₁ : World MemoryCluster} {kept : StoredTenant} {r : PassResult}
    (hk : w.cluster.tenants.get? (.text n) = some kept)
    (hn : kept.body.metadatum "name" = some (.str n)) (hp : kept.body.isProper = true)
    (hrun : (op.attend now (.str n)).run w = (.ok r, w₁)) (hc : r.outcome = .converged)
    (hb : r.body.isSome = true)
    (hw : ∀ patch, r.patch op.settings now = .ok (some patch) →
      ((MemoryCluster.patchTenantStatus (.str n) patch).run
        (op.reconcile (.str n) w).2.cluster).1 = .ok ()) :
    (∀ later, ∃ r' w₂ reads, (op.attend later (.str n)).run w₁ = (.ok r', w₂) ∧
      r'.outcome = .converged ∧ r'.body.isSome = true ∧ r'.namespaceCreated = false ∧
      r'.created = [] ∧ r'.patch op.settings later = .ok none ∧
      (∀ call ∈ reads, call.verb = .readTenant ∨ call.verb = .read) ∧
      w₂.cluster = { w₁.cluster with calls := w₁.cluster.calls ++ reads }) ∧
    ∀ times, ∃ reads, (∀ call ∈ reads, call.verb = .readTenant ∨ call.verb = .read) ∧
      (op.attendAt n times w₁).cluster =
        { w₁.cluster with calls := w₁.cluster.calls ++ reads } := by
  obtain ⟨rfl, hpublish⟩ := Operator.attend_eq_ok hrun
  have hknown : w.cluster.KnowsAs n := by
    intro other m hother hm
    obtain rfl := Option.some.inj (hk.symm.trans hother)
    rw [metadatum_name hm, Option.some.injEq, Json.str.injEq] at hn
    exact hn
  obtain ⟨other, after, t, created, hother, hready, -, hsettled, hproper⟩ :=
    (reconcile_reconciles op (.str n) w).settles hknown hc hb
  obtain rfl := Option.some.inj (hk.symm.trans hother)
  rw [hready] at hpublish hw
  have hrests := hsettled.rests_of_publish (hproper hp) hpublish hw
  refine ⟨?_, hrests.attendAt⟩
  intro later
  obtain ⟨body, w₂, reads, hrun₂, hpatch, hreads, hw₂⟩ := hrests.attends later
  exact ⟨_, w₂, reads, hrun₂, rfl, rfl, rfl, rfl, hpatch, hreads, hw₂⟩

/-- Whether a turn converges and writes its report is settled by looking at it. -/
theorem Operator.attend_of_any {op : Operator} {now : Time.Instant} {n : String}
    {w : World MemoryCluster}
    (h : (((op.attend now (.str n)).run w).1.toOption.any fun r =>
      decide (r.outcome = .converged) && r.body.isSome && !r.created.isEmpty &&
        (r.patch op.settings now).toOption.any (Option.any fun patch =>
          ((MemoryCluster.patchTenantStatus (.str n) patch).run
            (op.reconcile (.str n) w).2.cluster).1.isOk)) = true) :
    ∃ r w₁ patch, (op.attend now (.str n)).run w = (.ok r, w₁) ∧ r.outcome = .converged ∧
      r.body.isSome = true ∧ r.created ≠ [] ∧ r.patch op.settings now = .ok (some patch) ∧
      ((MemoryCluster.patchTenantStatus (.str n) patch).run
        (op.reconcile (.str n) w).2.cluster).1 = .ok () := by
  obtain ⟨r, hr, hchecks⟩ := (Option.any_eq_true _ _).1 h
  simp only [Bool.and_eq_true, decide_eq_true_iff, Option.any_eq_true, Bool.not_eq_true',
    List.isEmpty_eq_false_iff] at hchecks
  obtain ⟨⟨⟨hc, hb⟩, hcreated⟩, _, hpatch, patch, rfl, hwritten⟩ := hchecks
  refine ⟨r, _, patch, Prod.ext (eq_ok_of_toOption hr) rfl, hc, hb, hcreated,
    eq_ok_of_toOption hpatch, ?_⟩
  cases hw : ((MemoryCluster.patchTenantStatus (.str n) patch).run
      (op.reconcile (.str n) w).2.cluster).1 with
  | error fault => simp [hw, Except.isOk, Except.toBool] at hwritten
  | ok done => rfl

/-- A turn that makes the components of a tenant after one that made its namespace. -/
theorem attend_quiesces_plain :
    let op : Operator := {}
    let w : World MemoryCluster :=
      ((op.attend 0 (.str "a")).run { cluster := .joinedBy {} [plainTenant "a"] }).2
    ∃ r w₁ patch, (op.attend 60 (.str "a")).run w = (.ok r, w₁) ∧ r.outcome = .converged ∧
      r.created ≠ [] ∧ r.patch op.settings 60 = .ok (some patch) ∧
      ∀ times, ∃ reads, (∀ call ∈ reads, call.verb = .readTenant ∨ call.verb = .read) ∧
        (op.attendAt "a" times w₁).cluster =
          { w₁.cluster with calls := w₁.cluster.calls ++ reads } := by
  intro op w
  have hstored : (w.cluster.tenants.get? (.text "a")).any (fun kept => kept.body.isProper &&
      (kept.body.metadatum "name").any (·.same (.str "a"))) = true := by decide +kernel
  obtain ⟨kept, hk, hkept⟩ := (Option.any_eq_true _ _).1 hstored
  rw [Bool.and_eq_true, Option.any_eq_true] at hkept
  obtain ⟨hp, name, hn, hsame⟩ := hkept
  rw [Json.same_str.1 hsame] at hn
  obtain ⟨r, w₁, patch, hrun, hc, hb, hcreated, hpatch, hwritten⟩ :=
    @Operator.attend_of_any op 60 "a" w (by decide +kernel)
  have hw : ∀ patch, r.patch op.settings 60 = .ok (some patch) →
      ((MemoryCluster.patchTenantStatus (.str "a") patch).run
        (op.reconcile (.str "a") w).2.cluster).1 = .ok () := by
    intro other hother
    rw [Option.some.inj (Except.ok.inj (hother.symm.trans hpatch))]
    exact hwritten
  have hquiet := (attend_quiesces op (w := w) hk hn hp hrun hc hb hw).2
  exact ⟨r, w₁, patch, hrun, hc, hcreated, hpatch, hquiet⟩

end MoodleTenancy
