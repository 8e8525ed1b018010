import MoodleTenancy.Proofs.Housing
import MoodleTenancy.Scenario

/-!
# Runs of sessions

Whatever happens in a session, as long as no tenant's name or finalizers are edited by hand, no
namespace is left without a guarded tenant and no object without its namespace.

* `Task.Keeps`: a task leaves a property of the state as it is.
* `MemoryCluster.enrol_housed` and its kin: what happens to a cluster from outside.
* `Operator.attend_keeps` and its kin: what the operator does.
* `MemoryStep.IsPermitted`: the steps that may be taken. `Session.Reachable`: what they lead to.
* `Session.nothing_leaked`: what holds in every session.
-/

namespace MoodleTenancy
set_option autoImplicit false

/-! ## Tasks that keep a property -/

namespace Task

variable {σ τ α β : Type} {P : σ → Prop}

/-- A property holds behind a task if it holds before, also if the task fails. -/
def Keeps (P : σ → Prop) (t : Task σ α) : Prop :=
  ∀ s, P s → P (t.run s).2

theorem keeps_pure (a : α) : Keeps P (pure a) := fun _ h => h

theorem keeps_ofExcept (e : Except Fault α) : Keeps P (ofExcept e) := fun _ h => h

theorem keeps_fail (fault : Fault) : Keeps P (fail fault : Task σ α) := fun _ h => h

theorem keeps_bind {t : Task σ α} {f : α → Task σ β} (ht : Keeps P t)
    (hf : ∀ a, Keeps P (f a)) : Keeps P (t >>= f) := by
  intro s h
  have hs := ht s h
  rw [run_bind]
  generalize t.run s = out at hs ⊢
  obtain ⟨_ | a, s'⟩ := out
  · exact hs
  · exact hf a s' hs

/-- What is returned is no matter of the state. -/
theorem run_bind_pure (t : Task σ α) (f : α → β) (s : σ) :
    ((t >>= fun a => pure (f a)).run s).2 = (t.run s).2 := by
  rw [run_bind]
  generalize t.run s = out
  obtain ⟨_ | a, s'⟩ := out <;> rfl

theorem keeps_rescue {t : Task σ α} {f : Fault → Task σ α} (ht : Keeps P t)
    (hf : ∀ fault, Keeps P (f fault)) : Keeps P (t.rescue f) := by
  intro s h
  have hs := ht s h
  rw [run_rescue]
  generalize t.run s = out at hs ⊢
  obtain ⟨fault | a, s'⟩ := out
  · exact hf fault s' hs
  · exact hs

theorem keeps_within {Q : τ → Prop} {get : τ → σ} {set : σ → τ → τ} {t : Task σ α}
    (ht : Keeps P t) (hget : ∀ w, Q w → P (get w))
    (hset : ∀ w s, Q w → P s → Q (set s w)) : Keeps Q (within get set t) := by
  intro w h
  rw [run_within]
  exact hset _ _ h (ht _ (hget _ h))

end Task

/-! ## From outside -/

namespace MemoryCluster

variable {s : Settings} {guard : String} {c : MemoryCluster}

theorem run_storedTenant (c : MemoryCluster) (name : Json) :
    (storedTenant name).run c =
      match TenantKey.of name with
      | .error fault => (.error fault, c)
      | .ok key =>
        match c.tenants.get? key with
        | none => (.error (.missingKey name), c)
        | some kept => (.ok kept.body, c) := by
  rw [storedTenant, Task.run_bind, run_tenant?]
  cases TenantKey.of name with
  | error fault => rfl
  | ok key =>
    simp only [Except.map]
    cases c.tenants.get? key <;> rfl

theorem get?_metadata_changed {change : Change} {body after : Json}
    (h : body.changed (.str "spec") change = .ok after) :
    after.get? "metadata" = body.get? "metadata" := by
  have hkey : (Key.text "spec").identity ≠ (Key.text "metadata").identity := by decide
  cases body with
  | obj fields =>
    simp only [Json.changed, Json.fieldsChanged, Json.asKey, Json.key?, bind, Except.bind] at h
    cases change with
    | put v =>
      obtain rfl := Except.ok.inj h
      exact Fields.get?_set_ne hkey v fields
    | erase =>
      cases hs : Fields.get? "spec" fields with
      | none => simp [Change.value?, hs, Except.map] at h
      | some v =>
        simp only [Change.value?, hs] at h
        obtain rfl := Except.ok.inj h
        rw [Json.get?_obj, Fields.get?_erase, if_neg hkey]
        rfl
  | arr items =>
    simp only [Json.changed] at h
    cases hc : Json.itemsChanged (.str "spec") change.value? items with
    | error fault => simp [hc, Except.map] at h
    | ok items' =>
      rw [hc] at h
      obtain rfl := Except.ok.inj h
      rfl
  | _ => rw [eq_of_map_const h]

/-- An edit in the spec of a tenant leaves its metadata as they are. -/
theorem get?_metadata_edited {path : List Json} (hp : path.head? = some (.str "spec"))
    {change : Change} {body after : Json} (h : body.edited path change = .ok after) :
    after.get? "metadata" = body.get? "metadata" := by
  match path, hp with
  | [_], hp =>
    obtain rfl := Option.some.inj hp
    exact get?_metadata_changed h
  | _ :: key :: rest, hp =>
    obtain rfl := Option.some.inj hp
    rw [Json.edited] at h
    · split at h
      · cases hpart : body.part (.str "spec") with
        | error fault => simp [hpart, bind, Except.bind] at h
        | ok v =>
          cases he : Json.edited (key :: rest) change v with
          | error fault => simp [hpart, he, bind, Except.bind] at h
          | ok v' =>
            simp only [hpart, he, bind, Except.bind] at h
            exact get?_metadata_changed h
      · rw [eq_of_map_const h]
    · simp

theorem editTenant_sameMetadata (c : MemoryCluster) (name : Json) {path : List Json}
    (hp : path.head? = some (.str "spec")) (change : Change) :
    SameMetadata c ((editTenant name path change).run c).2 := by
  rw [editTenant, Task.run_bind, run_storedTenant]
  cases hk : TenantKey.of name with
  | error fault => exact .of_eq rfl rfl
  | ok key =>
    cases hc : c.tenants.get? key with
    | none =>
      simp only [hc]
      exact .of_eq rfl rfl
    | some kept =>
      simp only [hc, Task.run_bind, Task.run_ofExcept]
      cases he : kept.body.edited path change with
      | error fault => exact .of_eq rfl rfl
      | ok after =>
        dsimp only
        rw [run_storeTenant_of_get? c hk hc]
        exact .rewritten hc (get?_metadata_edited hp he)

/-- A tenant that goes on its request had no guard. -/
theorem retire_housed (h : Housed s guard c) (name : Json) :
    Housed s guard ((retire name).run c).2 := by
  rw [retire, Task.run_bind, run_storedTenant]
  cases hk : TenantKey.of name with
  | error fault => exact h
  | ok key =>
    cases hc : c.tenants.get? key with
    | none =>
      simp only [hc]
      exact h
    | some kept =>
      obtain ⟨n, rfl, hn⟩ := h.named hc
      obtain ⟨fields, md, hbody, hmd, hname⟩ := Json.metadatum_eq_some hn
      simp only [hc, hbody, Json.entry_eq_ok.2 (Json.get?_obj _ fields ▸ hmd), Json.field_obj,
        Task.run_bind, Task.run_ofExcept]
      by_cases ht : (Json.ofOption (Fields.get? "finalizers" md)).isTruthy = true
      · rw [if_pos ht, Task.run_bind_ok (run_newVersion c),
          run_storeTenant_of_get? { c with nextVersion := c.nextVersion + 1 } hk hc]
        have hcounted : Housed s guard { c with nextVersion := c.nextVersion + 1 } :=
          h.of_eq rfl rfl
        refine hcounted.rewritten hc ?_ ?_
        · simp [hbody, Json.metadatum, hmd, Fields.get?_set]
        · simp [hbody, Json.metadatum, hmd, Fields.get?_set]
      · rw [if_neg ht, dropTenant, Task.run_bind, Task.run_ofExcept, hk]
        refine h.dropped hc ?_
        rintro ⟨items, hitems, hmem⟩
        simp only [hbody, Json.metadatum, Json.get?_obj, hmd, Option.bind_some] at hitems
        rw [hitems] at ht
        cases items with
        | nil => exact absurd hmem (by simp)
        | cons item rest => exact ht rfl

theorem editObject_housed (h : Housed s guard c) (key : ObjectKey) (path : List Json)
    (change : Change) : Housed s guard ((editObject key path change).run c).2 := by
  rw [editObject, Task.run_bind_ok (Task.run_state c)]
  cases hm : c.objects.get? key with
  | none => exact h
  | some m =>
    simp only [Task.run_bind, Task.run_ofExcept]
    cases he : m.object.edited path change with
    | error fault => exact h
    | ok object =>
      refine h.of_keys rfl fun k => ?_
      simp only [Task.run_update, Table.get?_insert]
      split
      · rename_i hk
        rw [← hk, hm]
        rfl
      · rfl

theorem delete_housed (h : Housed s guard c) (kind : Kind) (name : String)
    (ns : Option String) : Housed s guard ((delete kind name ns).run c).2 := by
  have hnoted : ∀ call, Housed s guard (c.noting call) := fun _ => h.of_eq rfl rfl
  rw [run_delete]
  cases c.failureOf (.deleting ⟨kind, ns, name⟩) with
  | some fault => exact hnoted _
  | none => exact (hnoted _).emptied _

/-- A tenant comes in under a name that is free, without the guard of another one. -/
theorem enrol_housed (h : Housed s guard c) {n : String} {body : Json}
    (hn : body.metadatum "name" = some (.str n)) (hfree : c.tenants.get? (.text n) = none) :
    Housed s guard ((enrol body).run c).2 := by
  obtain ⟨stored, hstored, hrun⟩ := run_enrol c hn
  rw [hrun]
  refine h.of_tenants rfl ?_ ?_
  · intro key kept hk
    rw [Table.get?_insert] at hk
    split at hk
    · rename_i hkey
      obtain rfl := Option.some.inj hk
      exact ⟨n, hkey.symm, hstored⟩
    · exact h.named hk
  · intro n' kept _ hk hg
    refine ⟨kept, ?_, hg⟩
    rw [Table.get?_insert_ne]
    · exact hk
    · intro he
      rw [← he, hfree] at hk
      exact absurd hk (by simp)

end MemoryCluster

/-! ## The operator -/

namespace Job

variable {α : Type} {P : MemoryCluster → Prop}

theorem keeps_call {t : Task MemoryCluster α} (h : t.Keeps P) :
    Task.Keeps (fun w : World MemoryCluster => P w.cluster) (call t) :=
  Task.keeps_within h (fun _ hw => hw) (fun _ _ _ hc => hc)

theorem keeps_log (source : LogSource) (level : LogLevel) (text : String) :
    Task.Keeps (fun w : World MemoryCluster => P w.cluster) (log source level text) :=
  fun _ h => h

end Job

namespace Operator

variable {op : Operator}

/-- The jobs that leave no namespace without a tenant and no object without its namespace. -/
abbrev KeepsHoused {α : Type} (op : Operator) (j : Job MemoryCluster α) : Prop :=
  j.Keeps fun w => Housed op.settings op.guard w.cluster

theorem pass_keeps (name : Json) : op.KeepsHoused (op.pass name) := fun w h =>
  (reconcile_reconciles op name w).housed h

theorem publish_keeps (now : Time.Instant) (r : PassResult) :
    op.KeepsHoused (op.publish now r) := by
  refine Task.keeps_bind (Task.keeps_ofExcept _) fun patch => ?_
  cases patch with
  | none => exact Task.keeps_pure _
  | some patch =>
    refine Task.keeps_rescue (Job.keeps_call ?_) fun fault => ?_
    · intro c h
      exact h.of_sameMetadata (c.patchTenantStatus_sameMetadata _ _)
    · split
      · exact Job.keeps_log _ _ _
      · exact Task.keeps_fail _

theorem attend_keeps (now : Time.Instant) (name : Json) :
    op.KeepsHoused (op.attend now name) := by
  refine Task.keeps_bind (Task.keeps_ofExcept _) fun _ => ?_
  refine Task.keeps_bind (pass_keeps name) fun r => ?_
  exact Task.keeps_bind (publish_keeps now r) fun _ => Task.keeps_pure _

theorem onChange_keeps (now : Time.Instant) (name : Json) (retry : Int) :
    op.KeepsHoused (op.onChange now name retry) :=
  Task.keeps_bind (attend_keeps now name) fun _ => Task.keeps_ofExcept _

theorem onDelete_keeps (now : Time.Instant) (name : Json) (retry : Int) :
    op.KeepsHoused (op.onDelete now name retry) :=
  Task.keeps_bind (attend_keeps now name) fun _ => Task.keeps_ofExcept _

theorem onTimer_keeps (now : Time.Instant) (name : Json) :
    op.KeepsHoused (op.onTimer now name) := by
  refine Task.keeps_bind (attend_keeps now name) fun r => ?_
  split
  · exact Task.keeps_pure _
  · exact Job.keeps_log _ _ _

theorem objectLost_keeps (now : Time.Instant) (tenant : Json) :
    op.KeepsHoused (op.objectLost now tenant) := by
  refine Task.keeps_bind (Job.keeps_call ?_) fun found => ?_
  · intro c h
    rw [show (ApiServer.readTenant tenant).run c = _ from c.run_readTenant tenant]
    exact h.of_eq rfl rfl
  · cases found with
    | none => exact Task.keeps_pure _
    | some body =>
      refine Task.keeps_bind (Task.keeps_ofExcept _) fun leaving => ?_
      cases leaving with
      | true => exact Task.keeps_pure _
      | false =>
        refine Task.keeps_bind (attend_keeps now tenant) fun r => ?_
        split
        · exact Task.keeps_pure _
        · exact Job.keeps_log _ _ _

theorem onObjectEvent_keeps (now : Time.Instant) (event labels : Json) :
    op.KeepsHoused (op.onObjectEvent now event labels) := by
  refine Task.keeps_bind (Task.keeps_ofExcept _) fun tenant => ?_
  cases tenant with
  | none => exact Task.keeps_pure _
  | some tenant => exact Task.keeps_bind (Job.keeps_log _ _ _) fun _ => objectLost_keeps now tenant

end Operator

/-! ## Sessions -/

/-- The steps that are taken: tenants come in under names that are free, nothing but their specs is
edited, deletions are requested, failures come and go, objects are edited and deleted, and the
operator is set to work. -/
def MemoryStep.IsPermitted (c : MemoryCluster) : MemoryStep → Prop
  | .enrol body =>
    ∃ n, body.metadatum "name" = some (.str n) ∧ c.tenants.get? (.text n) = none
  | .editTenant _ path _ => path.head? = some (.str "spec")
  | .retire _ => True
  | .injectFailure _ _ _ => True
  | .clearFailures => True
  | .editObject _ _ _ _ _ => True
  | .common step =>
    match step with
    | .delete _ _ _ => True
    | .reconcile _ => True
    | .attend _ => True
    | .onChange _ _ => True
    | .onDelete _ _ => True
    | .onTimer _ => True
    | .onObjectEvent _ _ => True
    | _ => False

namespace Session

/-- The sessions that an operator gets to from an empty cluster, by steps at any times. -/
inductive Reachable (op : Operator) : Session MemoryCluster → Prop where
  | start (clock : Time.Instant) :
    Reachable op { world := { cluster := {} }, operator := op, clock := clock }
  | step {s : Session MemoryCluster} {step : MemoryStep} (h : Reachable op s)
    (hp : step.IsPermitted s.world.cluster) (clock : Time.Instant) :
    Reachable op ((performInMemory step).run { s with clock := clock }).2

/-- What holds in every session. -/
structure Sound (op : Operator) (s : Session MemoryCluster) : Prop where
  operator : s.operator = op
  housed : Housed op.settings op.guard s.world.cluster

variable {op : Operator} {α : Type}

theorem keeps_operate {f : Operator → Time.Instant → Job MemoryCluster α}
    (h : ∀ now, op.KeepsHoused (f op now)) : Task.Keeps (Sound op) (operate f) := by
  intro s hs
  have hrun : (operate f).run s = (job (f s.operator s.clock)).run s := rfl
  rw [hrun, hs.operator]
  exact ⟨hs.operator, h s.clock s.world hs.housed⟩

theorem keeps_call {t : Task MemoryCluster α}
    (h : t.Keeps (Housed op.settings op.guard)) : Task.Keeps (Sound op) (call t) :=
  fun s hs => ⟨hs.operator, h s.world.cluster hs.housed⟩

theorem perform_sound {step : Step} {c : MemoryCluster}
    (hp : (MemoryStep.common step).IsPermitted c) : Task.Keeps (Sound op) (perform step) := by
  cases step with
  | delete kind name ns =>
    refine Task.keeps_bind (Task.keeps_ofExcept _) fun kind => ?_
    refine Task.keeps_bind (keeps_call ?_) fun _ => Task.keeps_pure _
    intro c h
    exact MemoryCluster.delete_housed h kind name ns
  | reconcile name =>
    exact Task.keeps_bind (keeps_operate fun _ => Operator.pass_keeps name) fun _ =>
      Task.keeps_pure _
  | attend name =>
    exact Task.keeps_bind (keeps_operate fun now => Operator.attend_keeps now name) fun _ =>
      Task.keeps_pure _
  | onChange name retry =>
    exact Task.keeps_bind (keeps_operate fun now => Operator.onChange_keeps now name retry)
      fun _ => Task.keeps_pure _
  | onDelete name retry =>
    exact Task.keeps_bind (keeps_operate fun now => Operator.onDelete_keeps now name retry)
      fun _ => Task.keeps_pure _
  | onTimer name =>
    exact Task.keeps_bind (keeps_operate fun now => Operator.onTimer_keeps now name) fun _ =>
      Task.keeps_pure _
  | onObjectEvent event labels =>
    exact Task.keeps_bind (keeps_operate fun now => Operator.onObjectEvent_keeps now event labels)
      fun _ => Task.keeps_pure _
  | _ => exact hp.elim

theorem performInMemory_sound {step : MemoryStep} {s : Session MemoryCluster} (h : Sound op s)
    (hp : step.IsPermitted s.world.cluster) : Sound op ((performInMemory step).run s).2 := by
  cases step with
  | enrol body =>
    obtain ⟨n, hn, hfree⟩ := hp
    rw [performInMemory, Task.run_bind_pure]
    exact ⟨h.operator, MemoryCluster.enrol_housed h.housed hn hfree⟩
  | editTenant name path change =>
    refine Task.keeps_bind (keeps_call ?_) (fun _ => Task.keeps_pure _) s h
    intro c hc
    exact hc.of_sameMetadata (c.editTenant_sameMetadata name hp change)
  | retire name =>
    refine Task.keeps_bind (keeps_call ?_) (fun _ => Task.keeps_pure _) s h
    intro c hc
    exact MemoryCluster.retire_housed hc name
  | injectFailure verb kind fault =>
    refine Task.keeps_bind (Task.keeps_ofExcept _) (fun k => ?_) s h
    split
    · refine Task.keeps_bind (keeps_call ?_) fun _ => Task.keeps_pure _
      intro c hc
      exact hc.of_eq rfl rfl
    · exact Task.keeps_pure _
  | clearFailures =>
    refine Task.keeps_bind (keeps_call ?_) (fun _ => Task.keeps_pure _) s h
    intro c hc
    exact hc.of_eq rfl rfl
  | editObject kind name ns path change =>
    refine Task.keeps_bind (Task.keeps_ofExcept _) (fun k => ?_) s h
    refine Task.keeps_bind (keeps_call ?_) fun _ => Task.keeps_pure _
    intro c hc
    exact MemoryCluster.editObject_housed hc _ path change
  | common step => exact perform_sound hp s h

theorem Reachable.sound {s : Session MemoryCluster} (h : Reachable op s) : Sound op s := by
  induction h with
  | start clock => exact ⟨rfl, .empty⟩
  | step h hp clock ih => exact performInMemory_sound ⟨ih.operator, ih.housed⟩ hp

/-- In no session is anything leaked: a namespace is that of a stored tenant with the guard, and
every other object is in a namespace that exists. So a tenant that is gone, or has no guard, has
left neither a namespace behind nor anything in it. -/
theorem nothing_leaked {s : Session MemoryCluster} (h : Reachable op s) :
    (∀ k m, s.world.cluster.objects.get? k = some m → k.kind = .namespaceKind →
      ∃ n kept, k = Names.spaceKey op.settings n ∧
        s.world.cluster.tenants.get? (.text n) = some kept ∧
        kept.body.metadatum "name" = some (.str n) ∧ IsGuarded op.guard kept.body) ∧
    (∀ k m, s.world.cluster.objects.get? k = some m → k.kind ≠ .namespaceKind →
      ∃ x, k.namespaceName = some x ∧
        (s.world.cluster.objects.get? ⟨.namespaceKind, none, x⟩).isSome) ∧
    ∀ n, (∀ kept, s.world.cluster.tenants.get? (.text n) = some kept →
        ¬ IsGuarded op.guard kept.body) →
      ∀ k m, s.world.cluster.objects.get? k = some m →
        k ≠ Names.spaceKey op.settings n ∧ k.namespaceName ≠ some (Names.space op.settings n) := by
  have hh : Housed op.settings op.guard s.world.cluster := h.sound.housed
  exact ⟨fun k m => hh.keeper, fun k m => hh.inside, fun n hn k m => hh.apart hn⟩

/-- Two turns give a tenant its namespace and what is in it. -/
theorem nothing_leaked_plain :
    let op : Operator := {}
    let empty : Session MemoryCluster := { world := { cluster := {} }, operator := op }
    let after (step : MemoryStep) (s : Session MemoryCluster) (clock : Time.Instant) :=
      ((performInMemory step).run { s with clock := clock }).2
    let enrolled := after (.enrol (plainTenant "a")) empty 0
    let opened := after (.common (.attend (.str "a"))) enrolled 1
    let supplied := after (.common (.attend (.str "a"))) opened 2
    let space := Names.spaceKey op.settings "a"
    let deployment : ObjectKey := ⟨.deployment, some space.name, Names.deployment "a"⟩
    Reachable op supplied ∧
      (∃ m, supplied.world.cluster.objects.get? space = some m ∧
        ∃ n kept, space = Names.spaceKey op.settings n ∧
          supplied.world.cluster.tenants.get? (.text n) = some kept ∧
          kept.body.metadatum "name" = some (.str n) ∧ IsGuarded op.guard kept.body) ∧
      ∃ m, supplied.world.cluster.objects.get? deployment = some m ∧
        ∃ x, deployment.namespaceName = some x ∧
          (supplied.world.cluster.objects.get? ⟨.namespaceKind, none, x⟩).isSome := by
  intro op empty after enrolled opened supplied space deployment
  have hfree : (MemoryStep.enrol (plainTenant "a")).IsPermitted empty.world.cluster :=
    ⟨"a", rfl, rfl⟩
  have hattend (c : MemoryCluster) :
      (MemoryStep.common (.attend (.str "a"))).IsPermitted c := trivial
  have henrolled : Reachable op enrolled := .step (.start 0) hfree 0
  have hopened : Reachable op opened := .step henrolled (hattend _) 1
  have hsupplied : Reachable op supplied := .step hopened (hattend _) 2
  obtain ⟨hspaces, hinside, -⟩ := nothing_leaked hsupplied
  have hspace : (supplied.world.cluster.objects.get? space).isSome = true := by decide +kernel
  have hdeployment : (supplied.world.cluster.objects.get? deployment).isSome = true := by
    decide +kernel
  obtain ⟨m, hm⟩ := Option.isSome_iff_exists.1 hspace
  obtain ⟨m', hm'⟩ := Option.isSome_iff_exists.1 hdeployment
  exact ⟨hsupplied, ⟨m, hm, hspaces space m hm rfl⟩, m', hm', hinside deployment m' hm' (by decide)⟩

end Session

end MoodleTenancy
