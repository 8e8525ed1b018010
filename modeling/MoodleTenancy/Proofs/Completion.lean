import MoodleTenancy.Proofs.Accounts
import MoodleTenancy.Proofs.Quiescence

/-!
# Completion

A handler that returns has nothing left to do for its tenant. One that is not done asks for a retry,
whatever it was that kept it from being done.

* `Finished`: what there is of a tenant once nothing is left to do.
* `Operator.pause`: the seconds that a handler waits after it made a namespace.
* `Maintains.finished`, `Reconciles.finished`: passes that converge have finished.
* `Finished.published`: a report leaves it at that.
* `run_onChange_of_publish`: what a handler answers, by how its pass ended.
* `handlers_finish`: the handlers of changes and of deletions.
-/

namespace MoodleTenancy
set_option autoImplicit false

open Numeric

/-! ## What is left to do -/

/-- Nothing is left to do for a tenant: it never was there, or it was leaving and the guard is off,
or it is valid and guarded and has all that it is to have. -/
inductive Finished (op : Operator) (n : String) (before after : MemoryCluster) : Prop where
  | absent (h : before.tenants.get? (.text n) = none)
  | departed {kept : StoredTenant} {m : Metadata} (hk : before.tenants.get? (.text n) = some kept)
    (hm : metadataOf kept.body = .ok m) (hd : m.isMarked = true)
    (hg : ∀ later, after.tenants.get? (.text n) = some later → ¬ IsGuarded op.guard later.body)
  | standing {kept : StoredTenant} {t : Declaration}
    (hk : after.tenants.get? (.text n) = some kept) (ht : Declaration.parse kept.body = .ok t)
    (hd : t.metadata.isMarked = false) (hg : IsGuarded op.guard kept.body)
    (hs : (after.objects.get? (Names.spaceKey op.settings n)).isSome = true)
    (hc : ∀ p : Component, p.isNeeded t = true →
      (after.objects.get? (p.keyFor op.settings t)).isSome = true)

/-- The seconds that a handler waits after it made a namespace. -/
def Operator.pause (op : Operator) : Binary64 :=
  let delay := op.requeueDelay.getD .zero
  if delay.isZero then .zero else delay

/-! ## Passes -/

theorem PassResult.fault_eq_none_of_supplied {r : PassResult} {p : Progress}
    (h : (r.supplied p).outcome = .converged) : p.fault = none := by
  cases hf : p.fault with
  | none => rfl
  | some fault => simp [supplied, hf, aborted] at h

section Passes

variable {op : Operator} {n : String} {c d : MemoryCluster} {r : PassResult}

/-- A pass that converges with a guarded tenant leaves it with all that it is to have. -/
theorem Maintains.finished {start : PassResult} {body : Json} (h : Maintains op start body c r d)
    (hr : r.outcome = .converged) {kept : StoredTenant}
    (hk : c.tenants.get? (.text n) = some kept) (hbody : kept.body = body) {m : Metadata}
    (hm : metadataOf body = .ok m) (hn : m.name = n) (hd : m.isMarked = false)
    (hg : m.finalizers.contains op.guard = true) (before : MemoryCluster) :
    Finished op n before d := by
  have htenants := h.tenants_eq
  subst hbody hn
  cases h with
  | invalid ht => exact absurd hr (by simp [PassResult.aborted])
  | unopened ht hs => exact absurd hr (by simp [PassResult.aborted])
  | opened ht hs => exact absurd hr (by simp [PassResult.opened])
  | @supplied t p c' _ ht hs hp =>
    obtain rfl := Except.ok.inj (hm.symm.trans (metadataOf_of_parse ht))
    have hfault := PassResult.fault_eq_none_of_supplied hr
    have hspace := hp.shows hs.shows
    refine .standing (by rw [htenants, hk]) ht hd ((isGuarded_iff hm op.guard).2 hg) hspace.2 ?_
    intro q hneeded
    exact (hp.found hfault q (Component.mem_all q) hneeded).shown.2

theorem not_isGuarded_releasedForm (op : Operator) {body : Json} {m : Metadata}
    (h : metadataOf body = .ok m) (v : String) :
    ¬ IsGuarded op.guard ((op.releasedForm body m).withVersion (.str v)) := by
  rw [isGuarded_iff (metadataOf_withVersion (op.metadataOf_releasedForm h) v)]
  simp

/-- The guard is off once a cleaning went well, if the tenant is there at all. -/
theorem CleansUp.not_isGuarded {body stored : Json} {m : Metadata}
    (h : CleansUp op body m c (.ok stored) d) (hm : metadataOf body = .ok m) {later : StoredTenant}
    (hl : d.tenants.get? (.text m.name) = some later) : ¬ IsGuarded op.guard later.body := by
  cases h with
  | deleted hf h =>
    rw [h.body_of_get? hl, h.stored_eq]
    exact not_isGuarded_releasedForm op hm _

/-- A pass that converges has finished. -/
theorem Reconciles.finished (h : Reconciles op (.str n) c r d) (hc : c.KnowsAs n)
    (hr : r.outcome = .converged) : Finished op n c d := by
  cases h with
  | absent hf hkey ht =>
    obtain rfl := Except.ok.inj ((TenantKey.of_str n).symm.trans hkey)
    exact .absent ht
  | released hb hm hd hg =>
    obtain ⟨kept, hk, rfl⟩ := hb.exists_kept
    refine .departed hk hm hd ?_
    intro later hl
    obtain rfl := Option.some.inj (hk.symm.trans hl)
    rw [isGuarded_iff hm, hg]
    exact Bool.false_ne_true
  | cleaned hb hm hd hg hcl =>
    obtain rfl := hc.name_eq hb hm
    obtain ⟨kept, hk, rfl⟩ := hb.exists_kept
    exact .departed hk hm hd fun later hl => hcl.not_isGuarded hm hl
  | guarded hb hm hd hg h =>
    obtain ⟨kept, hk, hbody⟩ := hb.exists_kept
    exact h.finished hr hk hbody hm (hc.name_eq hb hm) hd hg c
  | newlyGuarded hb hm hd hg hrep h =>
    obtain rfl := hc.name_eq hb hm
    obtain rfl := hrep.stored_eq
    -- The pass goes on with the guarded form, which is what stands under the name by then.
    obtain ⟨current, -, hthere⟩ := hrep.get?_self (op.isReleased_guarded hm _)
    exact h.finished hr hthere rfl (op.metadataOf_guarded hm _) rfl hd (by simp) c
  | _ => exact absurd hr (by simp [PassResult.aborted])

end Passes

/-! ## Reports -/

namespace Finished

variable {op : Operator} {n : String} {before after : MemoryCluster}

/-- Only the status of the tenant is another one after a patch, which does not count. -/
theorem patched (h : Finished op n before after) (patch : Json) :
    Finished op n before ((MemoryCluster.patchTenantStatus (.str n) patch).run after).2 := by
  obtain hsame | ⟨key, found, status, hkey, hfound, hnew⟩ :=
    after.cluster_patchTenantStatus (.str n) patch
  · rw [hsame]
    cases h with
    | absent h => exact .absent h
    | departed hk hm hd hg => exact .departed hk hm hd hg
    | standing hk ht hd hg hs hc => exact .standing hk ht hd hg hs hc
  · obtain rfl : key = .text n := (Except.ok.inj hkey).symm
    have hself : (after.tenants.insert (Key.Identity.text n)
        ⟨found.name, found.body.set "status" status⟩).get? (.text n) =
        some ⟨found.name, found.body.set "status" status⟩ := Table.get?_insert_self _ _ _
    have hmetadata : ∀ key, (found.body.set "status" status).metadatum key =
        found.body.metadatum key := by
      intro key
      rw [Json.metadatum, Json.metadatum, Json.get?_set_ne (by decide)]
    rw [hnew]
    cases h with
    | absent h => exact .absent h
    | departed hk hm hd hg =>
      refine .departed hk hm hd ?_
      intro later hl
      obtain rfl := Option.some.inj (hself.symm.trans hl)
      rw [IsGuarded, hmetadata]
      exact hg found hfound
    | standing hk ht hd hg hs hc =>
      obtain rfl := Option.some.inj (hk.symm.trans hfound)
      refine .standing hself (parse_set_status ht status) hd ?_ hs hc
      rw [IsGuarded, hmetadata]
      exact hg

theorem published (h : Finished op n before after) (now : Time.Instant) {r : PassResult}
    (hr : r.name = .str n) {w : World MemoryCluster} (hw : w.cluster = after) :
    Finished op n before ((op.publish now r).run w).2.cluster := by
  subst hw
  obtain hsame | ⟨patch, -, hnew⟩ := op.cluster_publish now r w
  · rw [hsame]
    exact h
  · rw [hnew, hr]
    exact h.patched patch

end Finished

/-! ## Handlers -/

theorem run_onChange_of_publish (op : Operator) {now : Time.Instant} {n : String} {retry : Int}
    {w w' : World MemoryCluster}
    (hpub : (op.publish now (op.reconcile (.str n) w).1).run (op.reconcile (.str n) w).2 =
      (.ok (), w')) :
    (op.onChange now (.str n) retry).run w = (op.settle (op.reconcile (.str n) w).1 retry, w') := by
  rw [Operator.onChange, Task.run_bind, Operator.run_attend_str, hpub]
  rfl

/-- A handler returns if and only if its pass converges, provided that the status is written or need
not be, and then nothing is left to do. Otherwise it asks for a retry: soon, if it has just made a
namespace, and else after a delay that grows with the number of retries. -/
theorem handlers_finish (op : Operator) {now : Time.Instant} {n : String} {retry : Int}
    {delay : Binary64} {w w' : World MemoryCluster} (hw : w.cluster.SelfNamed)
    (hdelay : op.settings.backoff retry = .ok delay)
    (hpub : (op.publish now (op.reconcile (.str n) w).1).run (op.reconcile (.str n) w).2 =
      (.ok (), w')) :
    let r := (op.reconcile (.str n) w).1
    ∀ handler ∈ [op.onChange now (.str n) retry, op.onDelete now (.str n) retry],
      (handler.run w).2 = w' ∧
      ((handler.run w).1 = .ok () ↔ r.outcome = .converged) ∧
      (r.outcome = .converged →
        Finished op n w.cluster (op.reconcile (.str n) w).2.cluster ∧
        Finished op n w.cluster w'.cluster) ∧
      (r.outcome = .requeue → (handler.run w).1 = .error (.retryLater
        ("Namespace for " ++ n ++ " just created, provisioning on next pass") op.pause)) ∧
      (r.outcome = .fatal → ∃ fault, r.fault = some fault ∧
        (handler.run w).1 =
          .error (.retryLater ("Reconcile failed: " ++ fault.message) delay)) := by
  intro r handler hmem
  have hpass := reconcile_reconciles op (.str n) w
  have hrun : handler.run w = (op.settle r retry, w') := by
    rw [List.mem_pair] at hmem
    obtain rfl | rfl := hmem
    · exact run_onChange_of_publish op hpub
    · exact run_onChange_of_publish op hpub
  have hlabel : r.label = n := by
    rw [PassResult.label, hpass.name_eq]
    rfl
  rw [hrun, Operator.settle]
  cases hr : r.outcome with
  | converged =>
    have hdone := hpass.finished (hw.knowsAs n) hr
    have hreported := hdone.published now hpass.name_eq rfl
    rw [hpub] at hreported
    simp [hdone, hreported]
  | requeue =>
    have hafter : r.requeueAfter = op.requeueDelay := by
      rw [hpass.coherent.delay, if_pos (hpass.coherent.requeue.1 hr)]
    simp [hlabel, hafter, Operator.pause]
  | fatal =>
    obtain ⟨fault, hfault⟩ : ∃ fault, r.fault = some fault :=
      Option.isSome_iff_exists.1 (hpass.fatal_iff.1 hr)
    simp [hdelay, hfault, PassResult.faultText, bind, Except.bind]

theorem Except.exists_of_isOk {ε α : Type} {e : Except ε α} (h : e.isOk = true) :
    ∃ a, e = .ok a := by
  cases e with
  | error fault => exact absurd h (by simp [Except.isOk, Except.toBool])
  | ok a => exact ⟨a, rfl⟩

/-- The second pass for a plain tenant makes its components, and the handler returns. -/
theorem handlers_finish_plain :
    let op : Operator := {}
    let w : World MemoryCluster :=
      ((op.onChange 0 (.str "a") 0).run { cluster := .joinedBy {} [plainTenant "a"] }).2
    ∃ w', (op.onChange 60 (.str "a") 0).run w = (.ok (), w') ∧
      Finished op "a" w.cluster w'.cluster ∧
      (w'.cluster.tenants.get? (.text "a")).isSome = true := by
  intro op w
  have hself : w.cluster.SelfNamed := MemoryCluster.selfNamed_of_all (by decide +kernel)
  have hchecks : (((op.publish 60 (op.reconcile (.str "a") w).1).run
      (op.reconcile (.str "a") w).2).1.isOk && (op.settings.backoff 0).isOk &&
      decide ((op.reconcile (.str "a") w).1.outcome = .converged) &&
      (((op.onChange 60 (.str "a") 0).run w).2.cluster.tenants.get? (.text "a")).isSome) = true := by
    decide +kernel
  clear_value w
  simp only [Bool.and_eq_true, decide_eq_true_iff] at hchecks
  obtain ⟨⟨⟨hpub, hback⟩, hconverged⟩, hthere⟩ := hchecks
  obtain ⟨delay, hdelay⟩ := Except.exists_of_isOk hback
  obtain ⟨done, hwritten⟩ := Except.exists_of_isOk hpub
  obtain ⟨hafter, hquiet, hdone, -⟩ := handlers_finish op hself hdelay (Prod.ext hwritten rfl)
    (op.onChange 60 (.str "a") 0) List.mem_cons_self
  rw [hafter] at hthere
  exact ⟨_, Prod.ext (hquiet.2 hconverged) hafter, (hdone hconverged).2, hthere⟩

end MoodleTenancy
