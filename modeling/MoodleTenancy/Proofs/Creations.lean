import MoodleTenancy.Proofs.Accounts
import MoodleTenancy.Proofs.Entries

/-!
# Creations in the log

A pass that converges has all that it made in the log, in one entry. A pass that fails after it has
made something tells of the failure alone, and the next one tells of the rest.

* `infix_intercalate`: a joined text contains what was joined.
* `PassResult.Writes.recorded`: the entry of what a pass made.
* `attend_records_creations`: a turn whose report is written.
-/

namespace MoodleTenancy
set_option autoImplicit false

open Numeric

/-! ## Joined labels -/

theorem infix_intercalate {α : Type} {l : List α} {ls : List (List α)} (h : l ∈ ls)
    (sep : List α) : l <:+: sep.intercalate ls := by
  induction ls with
  | nil => exact absurd h List.not_mem_nil
  | cons first rest ih =>
    cases rest with
    | nil =>
      have hsame : l = first := List.mem_singleton.1 h
      simp [hsame]
    | cons second rest =>
      rw [List.intercalate_cons_cons]
      obtain rfl | h := List.mem_cons.1 h
      · exact ((List.prefix_append l sep).trans (List.prefix_append _ _)).isInfix
      · exact (ih h).trans (List.suffix_append _ _).isInfix

/-- The message of what was created has every label in it. -/
theorem Activity.infix_resourcesCreated {labels : List String} {label : String}
    (h : label ∈ labels) :
    label.toList <:+: (Activity.resourcesCreated labels).message.toList := by
  rw [resourcesCreated, String.toList_intercalate]
  exact infix_intercalate (List.mem_map_of_mem h) _

/-! ## What a report puts into the log -/

namespace PassResult.Writes

variable {s : Settings} {now : Time.Instant} {r : PassResult} {before after : Json}
  {happened : List Activity} {new : List Json}

/-- A pass that converges tells of all that it made in one entry. -/
theorem recorded (h : r.Writes s now before after happened new) (hc : r.outcome = .converged)
    (hmade : r.created ≠ []) : ∃ e ∈ new, EntryOf (now, .resourcesCreated r.created) e := by
  have htold : Activity.resourcesCreated r.created ∈ happened := by
    rw [h.done (by rw [hc]; decide), activities, hc]
    simp [hmade]
  exact EntryOf.exists_mem h.made (List.mem_map_of_mem htold)

theorem failure (h : r.Writes s now before after happened new) (hf : r.outcome = .fatal) :
    ∃ e attempt, new = [e] ∧ e.event = "RECONCILE_FAILED" ∧
      e.message = "Attempt " ++ attempt ++ ": " ++ Text.firstChars 150 r.faultText := by
  obtain ⟨attempt, rfl⟩ := h.failed hf
  obtain ⟨e, rest, he, hrest, rfl⟩ := List.forall₂_cons_left_iff.1 h.made
  obtain rfl := List.forall₂_nil_left_iff.1 hrest
  exact ⟨e, attempt, rfl, he.event_eq, he.message_eq⟩

theorem ne_nil (h : r.Writes s now before after happened new) (hmade : r.created ≠ [])
    (ho : r.outcome = .converged ∨ r.outcome = .fatal) : new ≠ [] := by
  obtain hc | hf := ho
  · obtain ⟨e, he, -⟩ := h.recorded hc hmade
    exact List.ne_nil_of_mem he
  · obtain ⟨e, attempt, rfl, -⟩ := h.failure hf
    exact List.cons_ne_nil e []

end PassResult.Writes

/-! ## Turns -/

/-- A turn that made something and wrote its report. What it has to say comes behind the log, of
which the latest entries are kept. All that it made is named by one entry if it has converged. If it
has failed by then, the failure is the only thing that is told. -/
theorem attend_records_creations (op : Operator) {n : String} {now : Time.Instant}
    {w w₁ : World MemoryCluster} {r : PassResult} {patch : Json} (hw : w.cluster.SelfNamed)
    (hrun : (op.attend now (.str n)).run w = (.ok r, w₁)) (hmade : r.created ≠ [])
    (hp : r.patch op.settings now = .ok (some patch))
    (hwritten : ((MemoryCluster.patchTenantStatus (.str n) patch).run
      (op.reconcile (.str n) w).2.cluster).1 = .ok ()) :
    ∃ before later new, w.cluster.tenants.get? (.text n) = some before ∧
      w₁.cluster.tenants.get? (.text n) = some later ∧
      later.body.status.entries = lastOf Activity.limit (before.body.status.entries ++ new) ∧
      new <:+ later.body.status.entries ∧
      (r.outcome = .converged ∨ r.outcome = .fatal) ∧
      (r.outcome = .converged → ∃ e ∈ new, e.event = "RESOURCES_CREATED" ∧
        ∀ label ∈ r.created, label.toList <:+: e.message.toList) ∧
      (r.outcome = .fatal → ∃ e attempt, new = [e] ∧ e.event = "RECONCILE_FAILED" ∧
        e.message = "Attempt " ++ attempt ++ ": " ++ Text.firstChars 150 r.faultText) := by
  obtain ⟨rfl, -⟩ := Operator.attend_eq_ok hrun
  have hpass := reconcile_reconciles op (.str n) w
  obtain ⟨body, hb⟩ : ∃ body, (op.reconcile (.str n) w).1.body = some body := by
    cases hb : (op.reconcile (.str n) w).1.body with
    | none =>
      rw [PassResult.patch_of_body_eq_none hb] at hp
      exact absurd hp (by simp)
    | some body => exact ⟨body, rfl⟩
  have hturn := op.attend_writes now (hw.knowsAs n) hb
  rw [hrun] at hturn
  obtain ⟨-, before, later, hbefore, hlater, ⟨-, hunwritten⟩ | ⟨happened, new, hwrites⟩⟩ := hturn
  · exact absurd hwritten (hunwritten patch hp)
  have hended : (op.reconcile (.str n) w).1.outcome = .converged ∨
      (op.reconcile (.str n) w).1.outcome = .fatal := by
    cases ho : (op.reconcile (.str n) w).1.outcome with
    | converged => exact .inl rfl
    | fatal => exact .inr rfl
    | requeue => exact absurd (hpass.coherent.created (hpass.coherent.requeue.1 ho)) hmade
  have hlog := hwrites.log.resolve_left fun hnone => hwrites.ne_nil hmade hended hnone.1
  refine ⟨before, later, new, hbefore, hlater, hlog, hwrites.suffix, hended, fun hc => ?_,
    hwrites.failure⟩
  obtain ⟨e, hmem, he⟩ := hwrites.recorded hc hmade
  refine ⟨e, hmem, he.event_eq, fun label hlabel => ?_⟩
  rw [he.message_eq]
  exact Activity.infix_resourcesCreated hlabel

/-- The second turn for a plain tenant makes its components and tells of all of them. -/
theorem attend_records_creations_plain :
    let op : Operator := {}
    let w : World MemoryCluster :=
      ((op.attend 0 (.str "a")).run { cluster := .joinedBy {} [plainTenant "a"] }).2
    w.cluster.SelfNamed ∧ ∃ r w₁ later, (op.attend 60 (.str "a")).run w = (.ok r, w₁) ∧
      r.created ≠ [] ∧ w₁.cluster.tenants.get? (.text "a") = some later ∧
      ∃ e ∈ later.body.status.entries, e.event = "RESOURCES_CREATED" := by
  intro op w
  have hself : w.cluster.SelfNamed := MemoryCluster.selfNamed_of_all (by decide +kernel)
  obtain ⟨r, w₁, patch, hrun, hc, -, hmade, hp, hwritten⟩ :=
    @Operator.attend_of_any op 60 "a" w (by decide +kernel)
  obtain ⟨-, later, new, -, hlater, -, hnew, -, hrecorded, -⟩ :=
    attend_records_creations op hself hrun hmade hp hwritten
  obtain ⟨e, he, hevent, -⟩ := hrecorded hc
  exact ⟨hself, r, w₁, later, hrun, hmade, hlater, e, hnew.subset he, hevent⟩

/-- The second turn for a plain tenant, cut short where its deployment is made. The secret that it
made before is named by no entry of the log that it wrote. -/
theorem creation_untold_cut_short :
    let op : Operator := {}
    let opened : World MemoryCluster :=
      ((op.attend 0 (.str "a")).run { cluster := .joinedBy {} [plainTenant "a"] }).2
    let w : World MemoryCluster := { opened with cluster := { opened.cluster with
      failures := [((.create, some .deployment), .api (some 500) none)] } }
    let turn := (op.attend 60 (.str "a")).run w
    ∃ r later, turn.1 = .ok r ∧ r.created = ["Secret/db-admin"] ∧ r.outcome = .fatal ∧
      (r.patch op.settings 60).toOption.any (Option.any fun patch =>
        ((MemoryCluster.patchTenantStatus (.str "a") patch).run
          (op.reconcile (.str "a") w).2.cluster).1.isOk) = true ∧
      turn.2.cluster.tenants.get? (.text "a") = some later ∧
      later.body.status.entries.map Json.message =
        ["Namespace tenant-a created", "Attempt 1: (500)\nReason: None\n"] := by
  intro op opened w turn
  have hchecks : (turn.1.toOption.any (fun r => decide (r.created = ["Secret/db-admin"]) &&
      decide (r.outcome = .fatal) && (r.patch op.settings 60).toOption.any (Option.any fun patch =>
        ((MemoryCluster.patchTenantStatus (.str "a") patch).run
          (op.reconcile (.str "a") w).2.cluster).1.isOk)) &&
      (turn.2.cluster.tenants.get? (.text "a")).any fun later =>
        decide (later.body.status.entries.map Json.message =
          ["Namespace tenant-a created", "Attempt 1: (500)\nReason: None\n"])) = true := by
    decide +kernel
  rw [Bool.and_eq_true, Option.any_eq_true, Option.any_eq_true] at hchecks
  obtain ⟨⟨r, hr, hresult⟩, later, hlater, hlog⟩ := hchecks
  simp only [Bool.and_eq_true, decide_eq_true_iff] at hresult
  exact ⟨r, later, eq_ok_of_toOption hr, hresult.1.1, hresult.1.2, hresult.2, hlater,
    of_decide_eq_true hlog⟩

end MoodleTenancy
