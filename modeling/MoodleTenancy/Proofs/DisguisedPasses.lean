import MoodleTenancy.Proofs.DisguisedCalls

/-!
# Passes for specs in disguise

A pass takes the same turns for a spec and for one that stands in for it, so handlers answer, log
and report the same.

* `Disguise.supply_couples`, `guardTenant_couples`, `cleanUp_couples`: parts of passes.
* `Disguise.reconcile_related`: passes. `Results.patch_eq`, `Results.settle_eq`: what follows them.
* `Disguise.attend_couples`: passes with their reports.
* `Operator.Handles`, `Disguise.handles_couples`: handlers.
-/

namespace MoodleTenancy
set_option autoImplicit false

namespace Disguise

variable {D : Disguise}

/-- Worlds that differ in such clusters at most. -/
abbrev Worlds (D : Disguise) : World MemoryCluster → World MemoryCluster → Prop :=
  World.Rel D.Clusters

/-! ## Supplying -/

section Supplying

variable {s : Settings} {t t' : Declaration}

theorem manifest_create_couples {m m' : Manifest} (hm : D.Manifests m m') :
    Task.Couples (D.Worlds) Eq m.create m'.create := by
  have hlabel : m'.label = m.label := by rw [Manifest.label, Manifest.label, hm.key_eq]
  simp only [Manifest.create, hlabel, hm.key_eq]
  refine .bind (.log _ _ _) fun _ _ _ => ?_
  refine .bind (.rescue (.call (create_couples _ hm)) fun fault => ?_) fun _ _ _ => .pure rfl
  exact .bind (.log _ _ _) fun _ _ _ => .fail fault

theorem supply_couples {m m' : Manifest} (hm : D.Manifests m m') :
    Task.Couples (D.Worlds) Eq m.supply m'.supply := by
  have hlabel : m'.label = m.label := by rw [Manifest.label, Manifest.label, hm.key_eq]
  simp only [Manifest.supply, hlabel, hm.key_eq]
  refine .bind (.call (read_couples _ _ _)) fun o o' ho => ?_
  cases o with
  | none =>
    obtain rfl : o' = none := Option.isSome_eq_false_iff.1 ho |> Option.isNone_iff_eq_none.1
    exact manifest_create_couples hm
  | some _ =>
    obtain ⟨found, rfl⟩ := Option.isSome_iff_exists.1 ho
    exact .bind (.log _ _ _) fun _ _ _ => .pure rfl

theorem openNamespace_couples (h : D.Declarations t t') :
    Task.Couples (D.Worlds) Eq (openNamespace s t)
      (openNamespace s t') := by
  rw [openNamespace, openNamespace, Child.space_of_concealed h.eq]
  refine .bind (supply_couples (.same _)) ?_
  rintro supplied _ rfl
  exact .pure rfl

theorem closeNamespace_couples (s : Settings) (id : String) :
    Task.Couples (D.Worlds) Eq (closeNamespace s id)
      (closeNamespace s id) := by
  refine .bind (.call (delete_couples _ _ _)) ?_
  rintro found _ rfl
  split
  · exact .bind (.log _ _ _) fun _ _ _ => .pure rfl
  · exact .bind (.log _ _ _) fun _ _ _ => .pure rfl

theorem supplyComponent_couples (h : D.Declarations t t') (ns : String) (p : Component) :
    Task.Couples (D.Worlds) Eq (supplyComponent s t ns p)
      (supplyComponent s t' ns p) := by
  refine .bind (.ofExcept (build_related h s (some ns) p)) fun child child' hchild => ?_
  refine .bind (supply_couples hchild) ?_
  rintro supplied _ rfl
  cases supplied with
  | created => exact .pure (by rw [hchild.label_eq])
  | present => exact .pure rfl

theorem supplyComponents_related (h : D.Declarations t t') (name ns : String) (ps : List Component)
    {w w' : World MemoryCluster} (hw : D.Worlds w w') :
    (supplyComponents s name t' ns ps w').1 = (supplyComponents s name t ns ps w).1 ∧
      D.Worlds (supplyComponents s name t ns ps w).2 (supplyComponents s name t' ns ps w').2 := by
  induction ps generalizing w w' with
  | nil => exact ⟨rfl, hw⟩
  | cons p rest ih =>
    simp only [supplyComponents, Component.isNeeded_of_concealed h.eq]
    split
    · obtain ⟨label, _, w₁, w₁', hrun, hrun', rfl, hw₁⟩ | ⟨fault, w₁, w₁', hrun, hrun', hw₁⟩ :=
        (supplyComponent_couples (s := s) h ns p).ends hw
      · obtain ⟨hlater, hw₂⟩ := ih hw₁
        rw [hrun, hrun']
        cases label with
        | none => exact ⟨hlater, hw₂⟩
        | some label => exact ⟨by simp only [hlater], hw₂⟩
      · rw [hrun, hrun']
        exact ⟨rfl, hw₁⟩
    · exact ih (hw.log _ _ _)

end Supplying

/-! ## The guard -/

theorem guardTenant_couples {b b' : Json} (hb : D.Bodies b b') (op : Operator) :
    Task.Couples (D.Worlds) D.Stored (op.guardTenant b) (op.guardTenant b') := by
  refine .bind (.ofExcept_eq (hb.entry_eq (by decide))) ?_
  rintro md _ ⟨rfl, hmd⟩
  refine .bind (.ofExcept_eq rfl) ?_
  rintro name _ ⟨rfl, -⟩
  refine .bind (.ofExcept_eq rfl) ?_
  rintro finalizers _ ⟨rfl, -⟩
  split
  · exact .pure ⟨hb, by rw [Json.entry_eq_ok.1 hmd, Option.isSome_some]⟩
  · refine .bind (.log _ _ _) fun _ _ _ => .call (replaceTenant_couples ?_)
    exact hb.setMetadata (by decide) _

theorem cleanUp_couples {b b' : Json} (hb : D.Bodies b b') (op : Operator) :
    Task.Couples (D.Worlds) D.Stored (op.cleanUp b) (op.cleanUp b') := by
  refine .bind (.ofExcept_eq (hb.entry_eq (by decide))) ?_
  rintro md _ ⟨rfl, hmd⟩
  refine .bind (.ofExcept_eq rfl) ?_
  rintro name _ ⟨rfl, -⟩
  refine .bind (.log _ _ _) fun _ _ _ => .bind (closeNamespace_couples _ _) fun _ _ _ => ?_
  refine .bind (.ofExcept_eq rfl) ?_
  rintro finalizers _ ⟨rfl, -⟩
  refine .bind (.call (replaceTenant_couples (hb.setMetadata (by decide) _))) fun _ _ hstored => ?_
  exact .bind (.log _ _ _) fun _ _ _ => .pure hstored

/-! ## Passes -/

/-- Passes with related results, in related worlds. -/
def Passes (D : Disguise) (out out' : PassResult × World MemoryCluster) : Prop :=
  D.Results out.1 out'.1 ∧ D.Worlds out.2 out'.2

namespace Results

variable {r r' : PassResult}

theorem label_eq (h : D.Results r r') : r'.label = r.label := by
  rw [PassResult.label, PassResult.label, h.name]

theorem refl (r : PassResult) : D.Results r r where
  outcome := rfl
  name := rfl
  body := by
    cases r.body with
    | none => exact .none
    | some b => exact .some (.same b)
  url := rfl
  namespaceCreated := rfl
  created := rfl
  faultText := rfl
  requeueAfter := rfl

theorem abort (h : D.Results r r') {f f' : Fault} (hf : f'.message = f.message)
    {w w' : World MemoryCluster} (hw : D.Worlds w w') :
    D.Passes (r.abort f w) (r'.abort f' w') := by
  refine ⟨⟨rfl, h.name, h.body, h.url, h.namespaceCreated, h.created, hf, h.requeueAfter⟩, ?_⟩
  rw [PassResult.abort, PassResult.abort, h.label_eq, hf]
  exact hw.log _ _ _

end Results

section Passes

variable {op : Operator} {r r' : PassResult} {w w' : World MemoryCluster}

theorem supplyAll_related (h : D.Results r r') {t t' : Declaration} (ht : D.Declarations t t')
    (hw : D.Worlds w w') : D.Passes (op.supplyAll r t w) (op.supplyAll r' t' w') := by
  have hid : t'.identifier = t.identifier := congrArg (fun t => t.metadata.name) ht.outer
  simp only [Operator.supplyAll, hid, h.label_eq]
  obtain ⟨hp, hw₁⟩ := supplyComponents_related (s := op.settings) ht r.label
    (Names.space op.settings t.identifier) Component.all hw
  generalize supplyComponents op.settings r.label t _ _ w = out at hp hw₁ ⊢
  generalize supplyComponents op.settings r.label t' _ _ w' = out' at hp hw₁ ⊢
  obtain ⟨p, w₁⟩ := out
  obtain ⟨p', w₁'⟩ := out'
  obtain rfl : p' = p := hp
  have hcreated : D.Results { r with created := p'.created } { r' with created := p'.created } :=
    { h with created := rfl }
  cases hf : p'.fault with
  | some fault => simpa only [hf] using hcreated.abort rfl hw₁
  | none =>
    simp only [hcreated.label_eq]
    exact ⟨hcreated, hw₁.log _ _ _⟩

theorem maintain_related (h : D.Results r r') {b b' : Json} (hb : D.Stored b b')
    (hw : D.Worlds w w') : D.Passes (op.maintain r b w) (op.maintain r' b' w') := by
  have hseen : D.Results { r with body := b.toOption } { r' with body := b'.toOption } :=
    { h with body := hb.1.toOption }
  obtain ⟨t, t', ht, ht', htt⟩ | ⟨f, f', hf, hf', hff⟩ := hb.1.parse hb.2
  · have hread : D.Results { r with body := b.toOption, declaration := some t }
        { r' with body := b'.toOption, declaration := some t' } :=
      { hseen with url := congrArg some (Declaration.url_of_concealed htt.eq) }
    have hid : t'.identifier = t.identifier := congrArg (fun t => t.metadata.name) htt.outer
    have hlogged := hw.log .pass .info
      ("[" ++ { r with body := b.toOption, declaration := some t }.label ++
        "] Ensuring namespace " ++ Names.space op.settings t.identifier)
    simp only [Operator.maintain, ht, ht', hid, hread.label_eq]
    obtain ⟨isNew, _, w₁, w₁', hrun, hrun', rfl, hw₁⟩ | ⟨fault, w₁, w₁', hrun, hrun', hw₁⟩ :=
      (openNamespace_couples (s := op.settings) htt).ends hlogged
    · rw [hrun, hrun']
      cases isNew with
      | true =>
        refine ⟨?_, hw₁⟩
        exact { hread with outcome := rfl, namespaceCreated := rfl, requeueAfter := rfl }
      | false => exact supplyAll_related hread htt hw₁
    · rw [hrun, hrun']
      exact hread.abort rfl hw₁
  · simp only [Operator.maintain, hf, hf']
    exact hseen.abort hff hw

theorem reconcileBody_related (h : D.Results r r') {b b' : Json} (hb : D.Bodies b b')
    (hw : D.Worlds w w') : D.Passes (op.reconcileBody r b w) (op.reconcileBody r' b' w') := by
  simp only [Operator.reconcileBody, hb.stage_eq op]
  cases hs : op.stage b with
  | error fault => exact h.abort rfl hw
  | ok stage =>
    have hm : (b.get? "metadata").isSome = true := by
      rw [op.stage_eq] at hs
      cases hmd : metadataOf b with
      | error fault => exact absurd hs (by simp [hmd, Except.map])
      | ok m =>
        obtain ⟨fields, md, rfl, hg, -⟩ := metadataOf_eq_ok.1 hmd
        rw [Json.get?_obj, hg, Option.isSome_some]
    cases stage with
    | leaving =>
      obtain ⟨_, _, w₁, w₁', hrun, hrun', -, hw₁⟩ | ⟨fault, w₁, w₁', hrun, hrun', hw₁⟩ :=
        (cleanUp_couples hb op).ends hw
      · simp only [hrun, hrun']
        exact ⟨h, hw₁⟩
      · simp only [hrun, hrun']
        exact h.abort rfl hw₁
    | released =>
      simp only [h.label_eq]
      exact ⟨h, hw.log _ _ _⟩
    | guarded => exact maintain_related h ⟨hb, hm⟩ hw
    | unguarded =>
      obtain ⟨_, _, w₁, w₁', hrun, hrun', hstored, hw₁⟩ | ⟨fault, w₁, w₁', hrun, hrun', hw₁⟩ :=
        (guardTenant_couples hb op).ends hw
      · simp only [hrun, hrun']
        exact maintain_related h hstored hw₁
      · have hseen : D.Results { r with body := some b } { r' with body := some b' } :=
          { h with body := .some hb }
        simp only [hrun, hrun']
        exact hseen.abort rfl hw₁

theorem reconcile_related (op : Operator) (name : Json) (hw : D.Worlds w w') :
    D.Passes (op.reconcile name w) (op.reconcile name w') := by
  have hstart : D.Results (.start name) (.start name) := .refl _
  have hcall : Task.Couples D.Worlds (Option.Rel D.Bodies)
      (Job.call (ApiServer.readTenant name)) (Job.call (ApiServer.readTenant name)) :=
    .call (readTenant_couples name)
  rw [Operator.reconcile, Operator.reconcile]
  obtain ⟨o, o', w₁, w₁', hrun, hrun', ho, hw₁⟩ | ⟨fault, w₁, w₁', hrun, hrun', hw₁⟩ :=
    hcall.ends hw
  · rw [hrun, hrun']
    cases ho with
    | none => exact ⟨hstart, hw₁.log _ _ _⟩
    | some hb => exact reconcileBody_related hstart hb hw₁
  · rw [hrun, hrun']
    exact hstart.abort rfl hw₁

end Passes

/-! ## Reports -/

namespace Results

variable {r r' : PassResult}

/-- What is written into the status is the same. -/
theorem patch_eq (h : D.Results r r') (s : Settings) (now : Time.Instant) :
    r'.patch s now = r.patch s now := by
  have hfields : ∀ body body' previous, D.Bodies body body' →
      r'.statusFields s now body' previous = r.statusFields s now body previous := by
    intro body body' previous hb
    simp only [PassResult.statusFields, PassResult.report, PassResult.namespaceEvents, h.label_eq,
      h.url, h.outcome, h.namespaceCreated, h.created, h.faultText,
      hb.entry_eq (by decide : "metadata" ≠ "spec")]
  have hbody := h.body
  simp only [PassResult.patch]
  generalize r.body = old at hbody ⊢
  generalize r'.body = new at hbody ⊢
  cases hbody with
  | none => rfl
  | some hb =>
    simp only [hb.field_eq (by decide : "status" ≠ "spec"), hfields _ _ _ hb]

/-- What is asked of the caller is the same. -/
theorem settle_eq (h : D.Results r r') (op : Operator) (retry : Int) :
    op.settle r' retry = op.settle r retry := by
  simp only [Operator.settle, h.outcome, h.requeueAfter, h.label_eq, h.faultText]

end Results

theorem publish_couples {r r' : PassResult} (h : D.Results r r') (op : Operator)
    (now : Time.Instant) :
    Task.Couples (D.Worlds) Eq (op.publish now r) (op.publish now r') := by
  rw [Operator.publish, Operator.publish, h.patch_eq, h.name, h.label_eq]
  refine .bind (.ofExcept_eq rfl) ?_
  rintro patch _ ⟨rfl, -⟩
  cases patch with
  | none => exact .pure rfl
  | some patch =>
    refine .rescue (.call (patchTenantStatus_couples _ _)) fun fault => ?_
    split
    · exact .log _ _ _
    · exact .fail fault

theorem attend_couples (op : Operator) (now : Time.Instant) (name : Json) :
    Task.Couples (D.Worlds) D.Results (op.attend now name) (op.attend now name) := by
  have hpass : Task.Couples (D.Worlds) D.Results (op.pass name) (op.pass name) := by
    intro w w' hw
    obtain ⟨hr, hw₁⟩ := reconcile_related op name hw
    exact ⟨.ok hr, hw₁⟩
  refine .bind (.ofExcept_eq rfl) fun _ _ _ => .bind hpass fun r r' hr => ?_
  exact .bind (publish_couples hr op now) fun _ _ _ => .pure hr

end Disguise

/-! ## Handlers -/

/-- What a handler does at an event. -/
inductive Operator.Handles (op : Operator) (now : Time.Instant) :
    Job MemoryCluster Unit → Prop where
  | change (name : Json) (retry : Int) : op.Handles now (op.onChange now name retry)
  | delete (name : Json) (retry : Int) : op.Handles now (op.onDelete now name retry)
  | timer (name : Json) : op.Handles now (op.onTimer now name)
  | objectEvent (event labels : Json) : op.Handles now (op.onObjectEvent now event labels)

namespace Disguise

variable {D : Disguise}

theorem objectLost_couples (op : Operator) (now : Time.Instant) (tenant : Json) :
    Task.Couples (D.Worlds) Eq (op.objectLost now tenant)
      (op.objectLost now tenant) := by
  have hcall : Task.Couples (D.Worlds) (Option.Rel D.Bodies)
      (Job.call (ApiServer.readTenant tenant)) (Job.call (ApiServer.readTenant tenant)) :=
    .call (readTenant_couples tenant)
  refine .bind hcall fun o o' ho => ?_
  cases ho with
  | none => exact .pure rfl
  | @some b b' hb =>
    have hleaving : Operator.isLeaving b' = Operator.isLeaving b := by
      rw [Operator.isLeaving, Operator.isLeaving, hb.entry_eq (by decide)]
    refine .bind (.ofExcept_eq hleaving) ?_
    rintro isLeaving _ ⟨rfl, -⟩
    split
    · exact .pure rfl
    · refine .bind (attend_couples op now tenant) fun r r' hr => ?_
      simp only [hr.outcome, hr.label_eq]
      split
      · exact .pure rfl
      · exact .log _ _ _

/-- Every handler answers and logs the same on both clusters. -/
theorem handles_couples {op : Operator} {now : Time.Instant} {job : Job MemoryCluster Unit}
    (h : op.Handles now job) : Task.Couples (D.Worlds) Eq job job := by
  have hsettle : ∀ retry r r', D.Results r r' → Task.Couples D.Worlds Eq
      (Task.ofExcept (op.settle r retry)) (Task.ofExcept (op.settle r' retry)) := by
    intro retry r r' hr
    rw [hr.settle_eq]
    exact .ofExcept (.refl _)
  cases h with
  | change name retry => exact .bind (attend_couples op now name) (hsettle retry)
  | delete name retry => exact .bind (attend_couples op now name) (hsettle retry)
  | timer name =>
    refine .bind (attend_couples op now name) fun r r' hr => ?_
    simp only [hr.outcome, hr.label_eq]
    split
    · exact .pure rfl
    · exact .log _ _ _
  | objectEvent event labels =>
    refine .bind (.ofExcept_eq rfl) ?_
    rintro tenant _ ⟨rfl, -⟩
    cases tenant with
    | none => exact .pure rfl
    | some tenant => exact .bind (.log _ _ _) fun _ _ _ => objectLost_couples op now tenant

end Disguise

end MoodleTenancy
