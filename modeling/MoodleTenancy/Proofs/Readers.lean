import MoodleTenancy.Proofs.Versions

/-!
# Readers

A body that was read is written back only if nothing has happened to the tenant since, however the
steps of the readers interleave.

* `Json.HasFinalizers`, `Json.refinalized`: the finalizers of a body, and the body with others.
* `Disturbed`: something happened to a tenant after it was read.
* `Refused`, `Taken`: how an attempt to write a body back ends.
* `Operator.run_guardTenant_of_finalizers`, `Operator.run_cleanUp_of_finalizers`: what is sent.
* `Numbered.refused`, `Numbered.taken`: which attempts end how.
* `Session.no_lost_update`: what comes of a body that was read in a run.
-/

namespace MoodleTenancy
set_option autoImplicit false

/-! ## Finalizers of a body -/

/-- The finalizers of a body are absent or a list of these texts. -/
def Json.HasFinalizers (body : Json) (fs : List String) : Prop :=
  body.metadatum "finalizers" = none ∧ fs = [] ∨ body.metadatum "finalizers" = some (.strings fs)

theorem Json.HasFinalizers.of_metadataOf {body : Json} {m : Metadata}
    (h : metadataOf body = .ok m) : body.HasFinalizers m.finalizers := by
  obtain ⟨fields, md, rfl, hg, ha⟩ := metadataOf_eq_ok.1 h
  simp only [HasFinalizers, Json.metadatum, Json.get?_obj, hg, Option.bind_some]
  exact get?_finalizers_of_accepted ha

/-- The body with other finalizers and another version. -/
def Json.refinalized (body : Json) (fs : List String) (version : Json) : Json :=
  (body.setMetadata "finalizers" (.strings fs)).withVersion version

theorem finalizersIn_of_hasFinalizers {fields md : Fields} {fs : List String}
    (hmd : Fields.get? "metadata" fields = some (.obj md))
    (h : (Json.obj fields).HasFinalizers fs) :
    Operator.finalizersIn (.obj md) = .ok (fs.map .str) := by
  simp only [Json.HasFinalizers, Json.metadatum, Json.get?_obj, hmd, Option.bind_some] at h
  simp only [Operator.finalizersIn, Json.field_obj, bind, Except.bind]
  obtain ⟨hnone, rfl⟩ | hsome := h
  · rw [hnone]
    rfl
  · rw [hsome]
    cases fs <;> rfl

theorem any_isText_map (s : String) (fs : List String) :
    (fs.map Json.str).any (·.isText s) = fs.contains s := by
  rw [List.any_map, List.contains_eq_any_beq]
  congr 1
  funext f
  simp [Json.isText, Bool.beq_eq_decide_eq, eq_comm]

theorem filter_isText_map (s : String) (fs : List String) :
    (fs.map Json.str).filter (fun f => !f.isText s) = (fs.filter (· != s)).map .str := by
  rw [List.filter_map]
  congr 2

/-- A body that nothing keeps is marked for deletion and has no finalizers. -/
theorem isReleased_refinalized {body : Json} {key : TenantKey} (hn : body.IsNamed key)
    (fs : List String) (v : Json) :
    MemoryCluster.isReleased (.ofOption ((body.refinalized fs v).get? "metadata")) =
      decide ((Json.ofOption (body.metadatum "deletionTimestamp")).isTruthy = true ∧ fs = []) := by
  obtain ⟨fields, md, name, rfl, hmd, -, -⟩ := hn.obj
  have hmetadata : ((Json.obj fields).refinalized fs v).get? "metadata" =
      some (.obj (Fields.set "resourceVersion" v (Fields.set "finalizers" (.strings fs) md))) := by
    simp [Json.refinalized, Json.withVersion, Json.setMetadata, hmd, Json.ofOption]
  have htruthy : (Json.strings fs).isTruthy = !fs.isEmpty := by
    cases fs <;> rfl
  rw [hmetadata]
  simp only [Json.ofOption, Option.getD_some, MemoryCluster.isReleased, Json.get?_obj,
    Json.metadatum, hmd, Option.bind_some]
  rw [Fields.get?_set_ne (by decide), Fields.get?_set_ne (by decide), Fields.get?_set_ne (by decide),
    Fields.get?_set_self, Option.getD_some, htruthy]
  cases fs <;> simp

/-! ## Attempts to write back -/

/-- The tenant under a key is gone, or has another version than the body, after some of the steps. -/
def Disturbed (s : Session MemoryCluster) (key : TenantKey) (body : Json)
    (since : List MemoryStep) : Prop :=
  ∃ part, part <+: since ∧ ∀ t, (s.after part).world.cluster.tenants.get? key = some t →
    t.body.metadatum "resourceVersion" ≠ body.metadatum "resourceVersion"

/-- An attempt fails, and the tenants stay as they are. -/
structure Refused (c : MemoryCluster) (key : TenantKey)
    (out : Except Fault Json × World MemoryCluster) : Prop where
  answer : out.1 = .error (if (c.tenants.get? key).isSome then .conflict else .notFound)
  tenants : out.2.cluster.tenants = c.tenants

/-- An attempt changes the finalizers and the version of a tenant and nothing else; a tenant that is
marked for deletion goes if no finalizer is left. -/
structure Taken (c : MemoryCluster) (key : TenantKey) (t : StoredTenant) (fs : List String)
    (out : Except Fault Json × World MemoryCluster) : Prop where
  answer : out.1 = .ok (t.body.refinalized fs c.version)
  tenants : out.2.cluster.tenants =
    if (Json.ofOption (t.body.metadatum "deletionTimestamp")).isTruthy = true ∧ fs = [] then
      c.tenants.erase key
    else c.tenants.insert key ⟨t.name, t.body.refinalized fs c.version⟩

namespace Operator

variable (op : Operator) {body : Json} {key : TenantKey} {fs : List String}

/-- Putting the guard on sends the body with the guard behind the other finalizers. -/
theorem run_guardTenant_of_finalizers (hn : body.IsNamed key) (hf : body.HasFinalizers fs)
    (hg : op.guard ∉ fs) (w : World MemoryCluster) :
    let sent := (MemoryCluster.replaceTenant
      (body.setMetadata "finalizers" (.strings (fs ++ [op.guard])))).run w.cluster
    ((op.guardTenant body).run w).1 = sent.1 ∧ ((op.guardTenant body).run w).2.cluster = sent.2 := by
  obtain ⟨fields, md, name, rfl, hmd, hname, -⟩ := hn.obj
  have hany : (fs.map Json.str).any (·.isText op.guard) = false := by
    rw [any_isText_map, ← Bool.not_eq_true, List.contains_iff_mem]
    exact hg
  have happ : fs.map Json.str ++ [.str op.guard] = (fs ++ [op.guard]).map .str := by simp
  simp only [guardTenant, Task.run_bind, Task.run_ofExcept, Json.entry, hmd, hname,
    finalizersIn_of_hasFinalizers hmd hf, hany, Bool.false_eq_true, if_false, Job.run_info,
    Job.run_call, World.cluster_log, happ, replaceFinalizers_eq]
  exact ⟨rfl, rfl⟩

/-- Taking the guard off sends the body with the other finalizers, once the namespace is gone. -/
theorem run_cleanUp_of_finalizers (hn : body.IsNamed key) (hf : body.HasFinalizers fs)
    {w : World MemoryCluster} (hw : Numbered w.cluster) :
    ∃ c, Ages w.cluster c ∧ c.tenants = w.cluster.tenants ∧ c.version = w.cluster.version ∧
      let sent := (MemoryCluster.replaceTenant
        (body.setMetadata "finalizers" (.strings (fs.filter (· != op.guard))))).run c
      ((op.cleanUp body).run w).1 = sent.1 ∧ ((op.cleanUp body).run w).2.cluster = sent.2 := by
  obtain ⟨fields, md, name, rfl, hmd, hname, -⟩ := hn.obj
  obtain ⟨journal, hclose⟩ := run_closeNamespace op.settings name.plain
    (w.log .guard .info ("Tenant " ++ name.plain ++ ": finalizing"))
  have hdelete : w.cluster.failureOf (.deleting (Names.spaceKey op.settings name.plain)) = none :=
    hw.failureOf_eq_none _
  have hfil : (fs.map Json.str).filter (fun f => !f.isText op.guard) =
      (fs.filter (· != op.guard)).map .str := filter_isText_map _ _
  simp only [cleanUp, Task.run_bind, Task.run_ofExcept, Json.entry, hmd, hname, Job.run_info, hclose,
    World.cluster_log, hdelete, finalizersIn_of_hasFinalizers hmd hf, hfil, Job.run_call,
    replaceFinalizers_eq]
  generalize hc : (w.cluster.noting _).emptied _ = c
  have hages : Ages w.cluster c := by
    rw [← hc]
    exact (Ages.noting _ _).trans (.emptied _ _)
  refine ⟨c, hages, ?_, ?_, ?_⟩
  · rw [← hc, MemoryCluster.emptied_tenants, MemoryCluster.noting_tenants]
  · rw [← hc, MemoryCluster.version, MemoryCluster.emptied_nextVersion]
    rfl
  · have hsent : (MemoryCluster.replaceTenant ((Json.obj fields).setMetadata "finalizers"
        (.strings (fs.filter (· != op.guard))))).run c =
        (ApiServer.replaceTenant ((Json.obj fields).setMetadata "finalizers"
          (.arr ((fs.filter (· != op.guard)).map .str))) : Task MemoryCluster Json).run c := rfl
    rw [hsent]
    generalize (ApiServer.replaceTenant _ : Task MemoryCluster Json).run c = out
    obtain ⟨_ | _, d⟩ := out
    · exact ⟨rfl, rfl⟩
    · exact ⟨rfl, rfl⟩

end Operator

namespace Numbered

variable {op : Operator} {body : Json} {key : TenantKey} {fs : List String}
  {w : World MemoryCluster}

/-- A body that the tenant has left behind is not written back. -/
theorem refused (h : Numbered w.cluster) (hn : body.IsNamed key) (hf : body.HasFinalizers fs)
    (hne : ∀ t, w.cluster.tenants.get? key = some t →
      t.body.metadatum "resourceVersion" ≠ body.metadatum "resourceVersion") :
    (op.guard ∉ fs → Refused w.cluster key ((op.guardTenant body).run w)) ∧
      Refused w.cluster key ((op.cleanUp body).run w) := by
  have hversion : ∀ fs, (body.setMetadata "finalizers" (.strings fs)).metadatum "resourceVersion" =
      body.metadatum "resourceVersion" := fun _ => metadatum_setMetadata_ne (by decide) _ _
  have hname : ∀ fs, (body.setMetadata "finalizers" (.strings fs)).IsNamed key := fun _ =>
    hn.setMetadata (by decide) _
  constructor
  · intro hg
    obtain ⟨hanswer, hafter⟩ := op.run_guardTenant_of_finalizers hn hf hg w
    obtain ⟨call, hrun⟩ := h.run_replaceTenant_of_ne (hname _) fun t ht => by
      rw [hversion]
      exact hne t ht
    rw [hrun] at hanswer hafter
    exact ⟨hanswer, by rw [hafter]; rfl⟩
  · obtain ⟨c, hages, htenants, -, hanswer, hafter⟩ :=
      op.run_cleanUp_of_finalizers hn hf h
    obtain ⟨call, hrun⟩ := (h.ages hages).run_replaceTenant_of_ne (hname _) fun t ht => by
      rw [hversion]
      exact hne t (htenants ▸ ht)
    rw [hrun] at hanswer hafter
    exact ⟨by rw [hanswer, htenants], by rw [hafter]; exact htenants⟩

/-- The body that the tenant has still is written back. -/
theorem taken (h : Numbered w.cluster) {t : StoredTenant} (ht : w.cluster.tenants.get? key = some t)
    (hf : t.body.HasFinalizers fs) :
    (op.guard ∉ fs →
      Taken w.cluster key t (fs ++ [op.guard]) ((op.guardTenant t.body).run w)) ∧
      Taken w.cluster key t (fs.filter (· != op.guard)) ((op.cleanUp t.body).run w) := by
  have hn : t.body.IsNamed key := h.named key t ht
  have hversion : ∀ fs, (t.body.setMetadata "finalizers" (.strings fs)).metadatum
      "resourceVersion" = t.body.metadatum "resourceVersion" := fun _ =>
    metadatum_setMetadata_ne (by decide) _ _
  have hname : ∀ fs, (t.body.setMetadata "finalizers" (.strings fs)).IsNamed key := fun _ =>
    hn.setMetadata (by decide) _
  have htaking : ∀ (c : MemoryCluster) (fs : List String), c.tenants = w.cluster.tenants →
      (c.taking key t (t.body.refinalized fs w.cluster.version)).tenants =
        if (Json.ofOption (t.body.metadatum "deletionTimestamp")).isTruthy = true ∧ fs = [] then
          w.cluster.tenants.erase key
        else w.cluster.tenants.insert key ⟨t.name, t.body.refinalized fs w.cluster.version⟩ := by
    intro c fs hc
    simp only [MemoryCluster.taking, isReleased_refinalized hn, decide_eq_true_eq, ← hc]
  constructor
  · intro hg
    obtain ⟨hanswer, hafter⟩ := op.run_guardTenant_of_finalizers hn hf hg w
    obtain ⟨call, hrun⟩ := h.run_replaceTenant_of_eq (hname _) ht (hversion _)
    rw [hrun] at hanswer hafter
    refine ⟨hanswer, ?_⟩
    rw [hafter]
    exact htaking _ _ rfl
  · obtain ⟨c, hages, htenants, hv, hanswer, hafter⟩ :=
      op.run_cleanUp_of_finalizers hn hf h
    obtain ⟨call, hrun⟩ := (h.ages hages).run_replaceTenant_of_eq (hname _) (htenants ▸ ht)
      (hversion _)
    rw [hrun, hv] at hanswer hafter
    refine ⟨hanswer, ?_⟩
    rw [hafter]
    exact htaking _ _ htenants

end Numbered

/-! ## Runs -/

/-- Whatever is stored under a name after a deletion was requested has a new version. -/
theorem MemoryCluster.hasVersion_of_retire {c : MemoryCluster} (h : Numbered c) {name : Json}
    {key : TenantKey} (hk : TenantKey.of name = .ok key) {t : StoredTenant}
    (ht : ((retire name).run c).2.tenants.get? key = some t) : t.body.HasVersion c.nextVersion := by
  obtain ⟨hd, hnone⟩ | hd | ⟨u, hd, -, hv⟩ := run_retire h hk
  · rw [hd, hnone] at ht
    exact absurd ht (by simp)
  · rw [hd, Table.get?_erase, if_pos rfl] at ht
    exact absurd ht (by simp)
  · rw [hd, Table.get?_insert_self, Option.some.injEq] at ht
    exact ht ▸ hv

namespace Session

variable {s : Session MemoryCluster}

theorem run_readTenant_step (s : Session MemoryCluster) (name : Json) (slot : Option String) :
    ∃ slots, (performInMemory (.common (.readTenant name slot))).run s =
      (match s.world.cluster.failureOf (.readingTenant name) with
        | some fault => .error fault
        | none => (TenantKey.of name).map fun key =>
          .document ((s.world.cluster.tenants.get? key).map StoredTenant.body),
        { s with
          world := { s.world with cluster := s.world.cluster.noting (.readingTenant name) }
          slots := slots }) := by
  have hcall : (call (ApiServer.readTenant name)).run s =
      (((MemoryCluster.readTenant name).run s.world.cluster).1,
        { s with world :=
          { s.world with cluster := ((MemoryCluster.readTenant name).run s.world.cluster).2 } }) :=
    rfl
  rw [MemoryCluster.run_readTenant] at hcall
  simp only [performInMemory, perform, Task.run_bind, hcall]
  cases s.world.cluster.failureOf (.readingTenant name) with
  | some fault => exact ⟨s.slots, rfl⟩
  | none =>
    cases TenantKey.of name with
    | error fault => exact ⟨s.slots, rfl⟩
    | ok key =>
      cases slot with
      | none => exact ⟨s.slots, rfl⟩
      | some slot => exact ⟨_, rfl⟩

/-- What a reading answers is stored under the name that was asked for. -/
theorem stored_of_readTenant (h : Numbered s.world.cluster) {name b : Json} {slot : Option String}
    (hread : ((performInMemory (.common (.readTenant name slot))).run s).1 =
      .ok (.document (some b))) :
    ∃ key t, TenantKey.of name = .ok key ∧ s.world.cluster.tenants.get? key = some t ∧
      t.body = b := by
  obtain ⟨slots, hrun⟩ := run_readTenant_step s name slot
  have hanswer := congrArg Prod.fst hrun
  rw [hread, h.failureOf_eq_none] at hanswer
  cases hk : TenantKey.of name with
  | error fault => simp [hk, Except.map] at hanswer
  | ok key =>
    cases ht : s.world.cluster.tenants.get? key with
    | none => simp [hk, ht, Except.map] at hanswer
    | some t =>
      simp only [hk, ht, Except.map, Option.map_some, Except.ok.injEq, Answer.document.injEq,
        Option.some.injEq] at hanswer
      exact ⟨key, t, rfl, ht, hanswer.symm⟩

theorem exists_document_of_any {e : Except Fault Answer} {p : Json → Bool}
    (h : (e.toOption.any fun answer =>
      match answer with
      | .document (some b) => p b
      | _ => false) = true) : ∃ b, e = .ok (.document (some b)) ∧ p b = true := by
  obtain ⟨answer, he, hp⟩ := (Option.any_eq_true _ _).1 h
  split at hp
  · exact ⟨_, eq_ok_of_toOption he, hp⟩
  · exact absurd hp Bool.false_ne_true

theorem tenants_readTenant_after (s : Session MemoryCluster) (past : List MemoryStep) (name : Json)
    (slot : Option String) :
    (s.after (past ++ [.common (.readTenant name slot)])).world.cluster.tenants =
      (s.after past).world.cluster.tenants := by
  obtain ⟨slots, hstep⟩ := run_readTenant_step (s.after past) name slot
  rw [after_append, show (s.after past).after [.common (.readTenant name slot)] =
    ((performInMemory (.common (.readTenant name slot))).run (s.after past)).2 from rfl, hstep]
  rfl

theorem cluster_retire_step (s : Session MemoryCluster) (name : Json) :
    ((performInMemory (.retire name)).run s).2.world.cluster =
      ((MemoryCluster.retire name).run s.world.cluster).2 := by
  rw [performInMemory, Task.run_bind_pure]
  rfl

section Disturbances

variable {key : TenantKey} {t : StoredTenant} {since : List MemoryStep}
  (h : Numbered s.world.cluster) (ht : s.world.cluster.tenants.get? key = some t)
  (hsteps : ∀ step ∈ since, step.IsOfTenants)
include h ht hsteps

/-- A tenant that was disturbed does not come back to the version that it had. -/
theorem ne_of_disturbed (hd : Disturbed s key t.body since) {u : StoredTenant}
    (hu : (s.after since).world.cluster.tenants.get? key = some u) :
    u.body.metadatum "resourceVersion" ≠ t.body.metadatum "resourceVersion" := by
  obtain ⟨part, hp, hne⟩ := hd
  obtain ⟨hpart, hrest⟩ := after_part hp hsteps h
  obtain ⟨k, hk, hv⟩ := h.versioned ht
  have hgone : ∀ x, (s.after part).world.cluster.tenants.get? key = some x →
      ¬ x.body.HasVersion k := fun x hx hxv => hne x hx (hxv.trans hv.symm)
  intro hsame
  exact hrest.ages.not_hasVersion (Nat.lt_of_lt_of_le hk hpart.ages.later) hgone hu
    (hsame.trans hv)

/-- A tenant that was not disturbed is there as it was. -/
theorem get?_of_not_disturbed (hd : ¬ Disturbed s key t.body since) :
    (s.after since).world.cluster.tenants.get? key = some t := by
  obtain ⟨k, hk, hv⟩ := h.versioned ht
  have hages := (after_part (List.prefix_refl since) hsteps h).1.ages
  by_contra hno
  refine hd ⟨since, List.prefix_refl _, fun u hu hsame => hno ?_⟩
  rw [hu, hages.get?_eq ht hu hk (hsame.trans hv)]

/-- A request for its deletion disturbs a tenant. -/
theorem disturbed_of_retire {asked : Json} (hk : TenantKey.of asked = .ok key)
    (hmem : MemoryStep.retire asked ∈ since) : Disturbed s key t.body since := by
  obtain ⟨pre, post, rfl⟩ := List.append_of_mem hmem
  obtain ⟨k, hlt, hv⟩ := h.versioned ht
  obtain ⟨hpre, -⟩ := after_part (List.prefix_append pre _) hsteps h
  refine ⟨pre ++ [.retire asked], ⟨post, by simp⟩, ?_⟩
  intro u hu hsame
  rw [after_append, show (s.after pre).after [.retire asked] =
    ((performInMemory (.retire asked)).run (s.after pre)).2 from rfl, cluster_retire_step] at hu
  have hnew := MemoryCluster.hasVersion_of_retire hpre.numbered hk hu
  have := hnew.unique (hsame.trans hv)
  have := hpre.ages.later
  omega

end Disturbances

/-- However the steps about tenants interleave, a body that was read is written back if nothing has
happened to its tenant since, and then with nothing but its finalizers and its version changed, and
otherwise it is not, and no tenant changes. So the guard is not put on a tenant whose deletion was
requested after the tenant was read. -/
theorem no_lost_update {start : Session MemoryCluster} (hstart : start.world.cluster = {})
    {past since : List MemoryStep} (hsteps : ∀ step ∈ past ++ since, step.IsOfTenants)
    {name b : Json} {slot : Option String} {fs : List String}
    (hread : ((performInMemory (.common (.readTenant name slot))).run (start.after past)).1 =
      .ok (.document (some b)))
    (hfs : b.HasFinalizers fs) (op : Operator) :
    let run := past ++ .common (.readTenant name slot) :: since
    let read := start.after (past ++ [.common (.readTenant name slot)])
    let w := (start.after run).world
    ∃ key, TenantKey.of name = .ok key ∧
      (Disturbed read key b since →
        (op.guard ∉ fs → Refused w.cluster key ((op.guardTenant b).run w)) ∧
        Refused w.cluster key ((op.cleanUp b).run w)) ∧
      (¬ Disturbed read key b since →
        ∃ t, w.cluster.tenants.get? key = some t ∧ t.body = b ∧
          (op.guard ∉ fs → Taken w.cluster key t (fs ++ [op.guard]) ((op.guardTenant b).run w)) ∧
          Taken w.cluster key t (fs.filter (· != op.guard)) ((op.cleanUp b).run w)) ∧
      (∀ part, part <+: run → ∀ key t,
        (start.after part).world.cluster.tenants.get? key = some t →
        t.body.metadatum "resourceVersion" ≠ some w.cluster.version) ∧
      (∀ asked, TenantKey.of asked = .ok key → .retire asked ∈ since → op.guard ∉ fs →
        Refused w.cluster key ((op.guardTenant b).run w)) := by
  intro run read w
  have hempty : Numbered start.world.cluster := hstart ▸ .empty
  have hpast : ∀ step ∈ past, step.IsOfTenants := fun step h =>
    hsteps step (List.mem_append_left _ h)
  have hsince : ∀ step ∈ since, step.IsOfTenants := fun step h =>
    hsteps step (List.mem_append_right _ h)
  have hall : ∀ step ∈ run, step.IsOfTenants := by
    intro step hstep
    obtain h | h := List.mem_append.1 hstep
    · exact hpast step h
    · obtain rfl | h := List.mem_cons.1 h
      · exact trivial
      · exact hsince step h
  have hreading : past ++ [.common (.readTenant name slot)] <+: run := ⟨since, by simp [run]⟩
  have hw : w = (read.after since).world := by
    rw [show read.after since = start.after _ from (start.after_append _ _).symm]
    simp [w, run]
  obtain ⟨hbefore, -⟩ := after_part (List.prefix_append past _) hall hempty
  obtain ⟨hat, hlater⟩ := after_part hreading hall hempty
  obtain ⟨key, t, hk, hstored, rfl⟩ := stored_of_readTenant hbefore.numbered hread
  have ht : read.world.cluster.tenants.get? key = some t := by
    rw [show read.world.cluster.tenants = (start.after past).world.cluster.tenants from
      tenants_readTenant_after _ _ _ _, hstored]
  have hrefused : Disturbed read key t.body since →
      (op.guard ∉ fs → Refused w.cluster key ((op.guardTenant t.body).run w)) ∧
        Refused w.cluster key ((op.cleanUp t.body).run w) := by
    intro hd
    refine hlater.numbered.refused (hat.numbered.named key t ht) hfs fun u hu => ?_
    refine ne_of_disturbed hat.numbered ht hsince hd ?_
    rw [← hw]
    exact hu
  refine ⟨key, hk, hrefused, ?_, ?_, ?_⟩
  · intro hd
    have hkept := get?_of_not_disturbed hat.numbered ht hsince hd
    rw [← hw] at hkept
    exact ⟨t, hkept, rfl, hlater.numbered.taken hkept hfs⟩
  · intro part hp key u hu
    exact ne_version_of_part hp hall hempty hu
  · intro asked hasked hmem
    exact (hrefused (disturbed_of_retire hat.numbered ht hsince hasked hmem)).1

/-- A tenant that something else keeps is read, its deletion is requested, and then the reader comes
to put the guard on. -/
theorem no_lost_update_plain :
    let op : Operator := {}
    let start : Session MemoryCluster := { world := { cluster := {} }, operator := op }
    let past : List MemoryStep :=
      [.enrol ((plainTenant "a").setMetadata "finalizers" (.strings ["backup"]))]
    let reading : MemoryStep := .common (.readTenant (.str "a") (some "x"))
    let w := (start.after (past ++ reading :: [.retire (.str "a")])).world
    ∃ b, ((performInMemory reading).run (start.after past)).1 = .ok (.document (some b)) ∧
      (w.cluster.tenants.get? (.text "a")).isSome = true ∧
      ((op.guardTenant b).run w).1 = .error .conflict ∧
      ((op.guardTenant b).run w).2.cluster.tenants = w.cluster.tenants := by
  intro op start past reading w
  obtain ⟨b, hread, hb⟩ := exists_document_of_any
    (e := ((performInMemory reading).run (start.after past)).1)
    (p := fun b => (metadataOf b).toOption.any (·.finalizers == ["backup"])) (by decide +kernel)
  have hthere : (w.cluster.tenants.get? (.text "a")).isSome = true := by decide +kernel
  have hsteps : ∀ step ∈ past ++ [.retire (.str "a")], step.IsOfTenants := by
    simp [past, MemoryStep.IsOfTenants]
  obtain ⟨m, hm, hbackup⟩ := (Option.any_eq_true _ _).1 hb
  have hfs : b.HasFinalizers ["backup"] := by
    rw [← beq_iff_eq.1 hbackup]
    exact .of_metadataOf (eq_ok_of_toOption hm)
  obtain ⟨key, hk, -, -, -, hretired⟩ := no_lost_update rfl hsteps hread hfs op
  obtain rfl : key = .text "a" := (Except.ok.inj hk).symm
  obtain ⟨hanswer, htenants⟩ :=
    hretired (.str "a") rfl List.mem_cons_self (by decide)
  rw [hthere] at hanswer
  exact ⟨b, hread, hthere, hanswer, htenants⟩

end Session

end MoodleTenancy
