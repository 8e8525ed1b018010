import MoodleTenancy.Proofs.Quiescence
import MoodleTenancy.Proofs.Recovery
import MoodleTenancy.Proofs.References

/-!
# Objects that are lost

A deleted object of a tenant has the tenant looked after again, unless the tenant is gone or going.
One event is enough, whichever object it is about and however many are lost.

* `Wakes`: what an event asks for. `Operator.RunsPass`: what a handler does then.
* `Operator.onObjectEvent_cases`: the handler runs a pass, or looks for the tenant at most.
* `MemoryCluster.losing`: a cluster after some objects were deleted.
* `Settled.reported`: a settled tenant stays settled at a report, and is said to be ready.
* `Healed`: what was lost is there again.
* `Settled.heals`: one pass for a settled tenant. `Operator.settled_of_attend`: how it got there.
* `events_heal`: any event, and an event of a tenant that a turn has just settled.
-/

namespace MoodleTenancy
set_option autoImplicit false

/-! ## Events -/

/-- An event asks for a pass for a tenant: it tells of a deletion, the object is labelled with the
tenant, and the tenant is found and is not marked for deletion. -/
structure Wakes (c : MemoryCluster) (event labels tenant : Json) : Prop where
  deleted : event.get? "type" = some (.str "DELETED")
  labelled : labels.get? Names.labelKey = some tenant
  given : tenant.isTruthy = true
  found : ∃ body, Finds c tenant body ∧
    (Json.ofOption (body.metadatum "deletionTimestamp")).isTruthy = false

theorem Json.field_eq_ok {key : String} {j v : Json} (hv : v ≠ .null) :
    j.field key = .ok v ↔ j.get? key = some v := by
  cases j with
  | obj fields =>
    rw [field_obj, get?_obj, Except.ok.injEq]
    exact ⟨fun h => eq_some_of_ofOption h hv, fun h => by rw [h]; rfl⟩
  | _ => simp [field, get?]

theorem Json.eq_of_isText {j : Json} {s : String} (h : j.isText s = true) : j = .str s := by
  cases j with
  | str t => simpa [isText] using h
  | _ => exact absurd h (by simp [isText])

theorem Json.ne_null_of_isTruthy {j : Json} (h : j.isTruthy = true) : j ≠ .null := by
  rintro rfl
  exact absurd h (by simp [isTruthy])

theorem Operator.tenantOf_eq_some {event labels tenant : Json} :
    tenantOf event labels = .ok (some tenant) ↔
      event.get? "type" = some (.str "DELETED") ∧ labels.get? Names.labelKey = some tenant ∧
        tenant.isTruthy = true := by
  constructor
  · intro h
    obtain ⟨type, htype, h⟩ := Except.bind_eq_ok_iff.1 h
    split at h
    · rename_i hdeleted
      obtain ⟨label, hlabel, h⟩ := Except.bind_eq_ok_iff.1 h
      split at h
      · rename_i hgiven
        obtain rfl := Option.some.inj (Except.ok.inj h)
        obtain rfl := Json.eq_of_isText hdeleted
        exact ⟨(Json.field_eq_ok (by simp)).1 htype,
          (Json.field_eq_ok (Json.ne_null_of_isTruthy hgiven)).1 hlabel, hgiven⟩
      · exact absurd (Except.ok.inj h) (by simp)
    · exact absurd (Except.ok.inj h) (by simp)
  · rintro ⟨hdeleted, hlabel, hgiven⟩
    have htype := (Json.field_eq_ok (by simp)).2 hdeleted
    have htenant := (Json.field_eq_ok (Json.ne_null_of_isTruthy hgiven)).2 hlabel
    have htext : (Json.str "DELETED").isText "DELETED" = true := rfl
    simp only [tenantOf, htype, htenant, hgiven, htext, bind, Except.bind, if_true]
    rfl

theorem Operator.isLeaving_of_named {body name : Json} (h : body.metadatum "name" = some name) :
    isLeaving body = .ok (Json.ofOption (body.metadatum "deletionTimestamp")).isTruthy := by
  obtain ⟨fields, md, rfl, hmd, -⟩ := Json.metadatum_eq_some h
  simp only [isLeaving, Json.metadatum, Json.entry, hmd, Json.get?_obj, Option.bind_some, bind,
    Except.bind, Json.field_obj]
  rfl

/-! ## A look at a tenant -/

section Looks

variable {name body other : Json} {w : World MemoryCluster}

theorem Finds.unique {c : MemoryCluster} (h : Finds c name body) (h' : Finds c name other) :
    body = other := by
  obtain ⟨-, key, kept, hkey, hk, rfl⟩ := h
  obtain ⟨-, key', kept', hkey', hk', rfl⟩ := h'
  obtain rfl := Except.ok.inj (hkey.symm.trans hkey')
  rw [Option.some.inj (hk.symm.trans hk')]

theorem Finds.run_readTenant (h : Finds w.cluster name body) :
    (Job.call (ApiServer.readTenant name)).run w =
      (.ok (some body), ⟨w.cluster.noting (.readingTenant name), w.journal⟩) := by
  obtain ⟨hanswered, key, kept, hkey, hkept, rfl⟩ := h
  rw [run_readTenant_call, hanswered, hkey]
  simp only [Except.map, hkept, Option.map_some]

theorem run_readTenant_of_not_finds (h : ∀ body, ¬ Finds w.cluster name body) :
    ∃ answer, (∀ body, answer ≠ .ok (some body)) ∧
      (Job.call (ApiServer.readTenant name)).run w =
        (answer, ⟨w.cluster.noting (.readingTenant name), w.journal⟩) := by
  refine ⟨_, fun body hbody => h body ?_, run_readTenant_call name w⟩
  split at hbody
  · exact absurd hbody (by simp)
  · rename_i hanswered
    obtain ⟨key, hkey, hmap⟩ := Except.map_eq_ok_iff.1 hbody
    obtain ⟨kept, hkept, rfl⟩ := Option.map_eq_some_iff.1 hmap
    exact ⟨hanswered, key, kept, hkey, hkept, rfl⟩

end Looks

/-! ## The handler of events -/

namespace Operator

variable {op : Operator} {now : Time.Instant} {tenant : Json} {w w' : World MemoryCluster}

/-- After a look at a tenant, a pass for it was run and reported. -/
def RunsPass (op : Operator) (now : Time.Instant) (tenant : Json) (w w' : World MemoryCluster) :
    Prop :=
  ∃ seen : World MemoryCluster, seen.cluster = w.cluster.noting (.readingTenant tenant) ∧
    w'.cluster =
      ((op.publish now (op.reconcile tenant seen).1).run (op.reconcile tenant seen).2).2.cluster

theorem calls_publish (op : Operator) (now : Time.Instant) (r : PassResult)
    (w : World MemoryCluster) :
    ((op.publish now r).run w).2.cluster.calls = w.cluster.calls := by
  obtain h | ⟨patch, -, h⟩ := op.cluster_publish now r w
  · rw [h]
  · rw [h]
    obtain h | ⟨_, _, _, -, -, h⟩ := w.cluster.cluster_patchTenantStatus r.name patch
    · rw [h]
      rfl
    · rw [h]
      rfl

theorem RunsPass.calls (h : op.RunsPass now tenant w w') :
    ∃ more, w'.cluster.calls =
      w.cluster.calls ++ .readingTenant tenant :: .readingTenant tenant :: more := by
  obtain ⟨seen, hseen, hafter⟩ := h
  have hlasts := (reconcile_reconciles op tenant seen).lasts_of_noting
    (.calls (seen.cluster.calls ++ [.readingTenant tenant])) (List.prefix_refl _)
  obtain ⟨more, hmore⟩ := hlasts
  refine ⟨more, ?_⟩
  rw [hafter, calls_publish, ← hmore, hseen, MemoryCluster.noting_calls]
  simp

theorem objectLost_of_not_finds (h : ∀ body, ¬ Finds w.cluster tenant body) :
    ((op.objectLost now tenant).run w).2.cluster = w.cluster.noting (.readingTenant tenant) := by
  obtain ⟨answer, hnone, hread⟩ := run_readTenant_of_not_finds h
  rw [objectLost, Task.run_bind, hread]
  cases answer with
  | error fault => rfl
  | ok found =>
    cases found with
    | none => rfl
    | some body => exact absurd rfl (hnone body)

section Found

variable {body name : Json}

theorem objectLost_of_leaving (hb : Finds w.cluster tenant body)
    (hn : body.metadatum "name" = some name)
    (hd : (Json.ofOption (body.metadatum "deletionTimestamp")).isTruthy = true) :
    ((op.objectLost now tenant).run w).2.cluster = w.cluster.noting (.readingTenant tenant) := by
  rw [objectLost, Task.run_bind_ok hb.run_readTenant]
  simp only [Task.run_bind, Task.run_ofExcept, isLeaving_of_named hn, hd, if_true]
  rfl

/-- What the handler does after the pass is at most a line in the journal. -/
theorem objectLost_of_staying (hb : Finds w.cluster tenant body)
    (hn : body.metadatum "name" = some name)
    (hd : (Json.ofOption (body.metadatum "deletionTimestamp")).isTruthy = false) :
    op.RunsPass now tenant w ((op.objectLost now tenant).run w).2 := by
  obtain ⟨key, _, hkey, -, -⟩ := hb.stored
  obtain ⟨k, hk, -⟩ := Except.map_eq_ok_iff.1 hkey
  refine ⟨⟨w.cluster.noting (.readingTenant tenant), w.journal⟩, rfl, ?_⟩
  rw [objectLost, Task.run_bind_ok hb.run_readTenant]
  simp only [Task.run_bind, Task.run_ofExcept, isLeaving_of_named hn, hd, Bool.false_eq_true,
    if_false, op.run_attend now hk]
  generalize (⟨w.cluster.noting (.readingTenant tenant), w.journal⟩ : World MemoryCluster) = seen
  generalize (op.publish now (op.reconcile tenant seen).1).run (op.reconcile tenant seen).2 = out
  obtain ⟨_ | _, w₂⟩ := out
  · rfl
  · dsimp only
    split <;> rfl

end Found

theorem objectLost_cases (op : Operator) (now : Time.Instant) (tenant : Json)
    {w : World MemoryCluster}
    (hn : ∀ body, Finds w.cluster tenant body → ∃ name, body.metadatum "name" = some name) :
    let w' := ((op.objectLost now tenant).run w).2
    (∃ body, Finds w.cluster tenant body ∧
        (Json.ofOption (body.metadatum "deletionTimestamp")).isTruthy = false ∧
        op.RunsPass now tenant w w') ∨
      ((∀ body, Finds w.cluster tenant body →
          (Json.ofOption (body.metadatum "deletionTimestamp")).isTruthy = true) ∧
        w'.cluster = w.cluster.noting (.readingTenant tenant)) := by
  by_cases hfound : ∃ body, Finds w.cluster tenant body
  · obtain ⟨body, hb⟩ := hfound
    obtain ⟨name, hname⟩ := hn body hb
    cases hd : (Json.ofOption (body.metadatum "deletionTimestamp")).isTruthy with
    | false => exact .inl ⟨body, hb, hd, objectLost_of_staying hb hname hd⟩
    | true => exact .inr ⟨fun other h => by rw [h.unique hb, hd], objectLost_of_leaving hb hname hd⟩
  · have hnone := not_exists.1 hfound
    exact .inr ⟨fun body hb => absurd hb (hnone body), objectLost_of_not_finds hnone⟩

/-- The handler runs a pass for the tenant that the event asks one for. Without such a tenant it
looks for one at most. -/
theorem onObjectEvent_cases (op : Operator) (now : Time.Instant) {w : World MemoryCluster}
    {labels : Json} (hn : ∀ tenant body, labels.get? Names.labelKey = some tenant →
      Finds w.cluster tenant body → ∃ name, body.metadatum "name" = some name) (event : Json) :
    let w' := ((op.onObjectEvent now event labels).run w).2
    (∃ tenant, Wakes w.cluster event labels tenant ∧ op.RunsPass now tenant w w') ∨
      ((∀ tenant, ¬ Wakes w.cluster event labels tenant) ∧
        ∃ looks : List Call, w'.cluster = w.cluster.behind looks ∧ looks.length ≤ 1 ∧
          ∀ call ∈ looks, call.verb = .readTenant) := by
  have hasked : ∀ {tenant}, Wakes w.cluster event labels tenant →
      tenantOf event labels = .ok (some tenant) := fun h =>
    tenantOf_eq_some.2 ⟨h.deleted, h.labelled, h.given⟩
  simp only [onObjectEvent, Task.run_bind, Task.run_ofExcept]
  cases htenant : tenantOf event labels with
  | error fault =>
    refine .inr ⟨fun tenant h => ?_, [], w.cluster.behind_nil.symm, by simp, by simp⟩
    exact absurd (htenant.symm.trans (hasked h)) (by simp)
  | ok asked =>
    cases asked with
    | none =>
      refine .inr ⟨fun tenant h => ?_, [], w.cluster.behind_nil.symm, by simp, by simp⟩
      exact absurd (htenant.symm.trans (hasked h)) (by simp)
    | some tenant =>
      obtain ⟨hdeleted, hlabel, hgiven⟩ := tenantOf_eq_some.1 htenant
      simp only [Task.run_bind, Job.run_info]
      obtain ⟨body, hb, hd, seen, hseen, hafter⟩ | ⟨hleaving, hlook⟩ :=
        objectLost_cases op now tenant (w := w.log _ _ _) fun body => hn tenant body hlabel
      · exact .inl ⟨tenant, ⟨hdeleted, hlabel, hgiven, body, hb, hd⟩, seen, hseen, hafter⟩
      · refine .inr ⟨fun other h => ?_, [.readingTenant tenant], hlook, Nat.le_refl 1, ?_⟩
        · obtain rfl : tenant = other :=
            Option.some.inj (Except.ok.inj (htenant.symm.trans (hasked h)))
          obtain ⟨body, hb, hd⟩ := h.found
          exact absurd (hd.symm.trans (hleaving body hb)) (by simp)
        · intro call hcall
          rw [List.mem_singleton.1 hcall]
          rfl

/-- The handler runs a pass exactly when the event asks for one. -/
theorem runsPass_iff (op : Operator) (now : Time.Instant) {w : World MemoryCluster}
    {labels : Json} (hn : ∀ tenant body, labels.get? Names.labelKey = some tenant →
      Finds w.cluster tenant body → ∃ name, body.metadatum "name" = some name)
    (event tenant : Json) :
    op.RunsPass now tenant w ((op.onObjectEvent now event labels).run w).2 ↔
      Wakes w.cluster event labels tenant := by
  -- The calls tell the cases apart: a pass reads its tenant once more than the handler does.
  obtain ⟨asked, hwakes, hruns⟩ | ⟨hnone, looks, hafter, hshort, -⟩ :=
    op.onObjectEvent_cases now hn event
  · constructor
    · intro h
      obtain ⟨more, hmore⟩ := hruns.calls
      obtain ⟨others, hothers⟩ := h.calls
      have hsame := List.append_cancel_left (hothers.symm.trans hmore)
      obtain rfl : tenant = asked := congrArg Call.name (List.cons.inj hsame).1
      exact hwakes
    · intro h
      obtain rfl : asked = tenant :=
        Option.some.inj (hwakes.labelled.symm.trans h.labelled)
      exact hruns
  · constructor
    · intro h
      obtain ⟨more, hmore⟩ := h.calls
      rw [hafter] at hmore
      have hlooks : looks = _ := List.append_cancel_left hmore
      rw [hlooks] at hshort
      exact absurd hshort (by simp)
    · intro h
      exact absurd h (hnone tenant)

end Operator

/-! ## Labels -/

/-- An object that passes synthesize for a tenant: its namespace, or that of a component. -/
inductive Child.IsOf (s : Settings) (t : Declaration) : Child → Prop where
  | space : IsOf s t (.space s t)
  | component {p : Component} {child : Child} (hp : p.isNeeded t = true)
    (hb : p.build s t (some (Names.space s t.identifier)) = .ok child) : IsOf s t child

theorem Component.labels_of_build {s : Settings} {t : Declaration} {ns : Option String}
    {p : Component} {child : Child} (h : p.build s t ns = .ok child) :
    child.labels = Names.labels t.identifier := by
  obtain ⟨o, -, rfl⟩ := Except.map_eq_ok_iff.1 h
  obtain ⟨spec, hspec⟩ := p.child_eq_owned s t o ns
  rw [hspec]
  rfl

theorem Child.IsOf.labelled {s : Settings} {t : Declaration} {child : Child}
    (h : child.IsOf s t) :
    (Json.ofLabels child.labels).get? Names.labelKey = some (.str t.identifier) := by
  cases h with
  | space => rfl
  | component hp hb =>
    rw [Component.labels_of_build hb]
    rfl

/-! ## Lost objects -/

namespace MemoryCluster

variable {c : MemoryCluster} {keys : List ObjectKey}

/-- The cluster after the objects under some keys were deleted, one after the other. -/
def losing (c : MemoryCluster) (keys : List ObjectKey) : MemoryCluster :=
  keys.foldl (fun c k => ((delete k.kind k.name k.namespaceName).run c).2) c

theorem losing_spares (hf : c.failures = []) (hk : ∀ k ∈ keys, k.kind ≠ .namespaceKind) :
    (c.losing keys).failures = [] ∧ (c.losing keys).tenants = c.tenants ∧
      ∀ k, (c.losing keys).objects.get? k = if k ∈ keys then none else c.objects.get? k := by
  -- On the keys, for any cluster without failures: each deletion leaves such a one.
  induction keys generalizing c with
  | nil => exact ⟨hf, rfl, fun k => by rw [if_neg List.not_mem_nil]; rfl⟩
  | cons key rest ih =>
    obtain ⟨hkey, hrest⟩ := List.forall_mem_cons.1 hk
    have hstep : ((delete key.kind key.name key.namespaceName).run c).2 =
        (c.noting (.deleting key)).emptied key := by
      rw [run_delete, failureOf_eq_none hf]
    obtain ⟨hfailures, htenants, hobjects⟩ :=
      ih (c := (c.noting (.deleting key)).emptied key) (by rw [emptied_failures]; exact hf) hrest
    rw [losing, List.foldl_cons, hstep, ← losing]
    refine ⟨hfailures, htenants.trans (emptied_tenants _ _), fun k => ?_⟩
    rw [hobjects, get?_emptied, noting_objects]
    by_cases hin : k ∈ rest
    · rw [if_pos hin, if_pos (List.mem_cons_of_mem _ hin)]
    · rw [if_neg hin]
      by_cases hself : k = key
      · subst hself
        rw [if_pos List.mem_cons_self]
        split
        · rfl
        · rename_i hgone
          simpa [hkey] using hgone
      · rw [if_neg (by simp [hkey, hself]), if_neg (by simp [hin, hself])]

theorem losing_components (hf : c.failures = []) (s : Settings) (t : Declaration)
    (lost : List Component) :
    let d := c.losing (lost.map (Component.keyFor s t))
    d.failures = [] ∧ d.tenants = c.tenants ∧ ∀ k, d.objects.get? k =
      if k ∈ lost.map (Component.keyFor s t) then none else c.objects.get? k := by
  refine losing_spares hf fun k hk => ?_
  obtain ⟨p, -, rfl⟩ := List.mem_map.1 hk
  exact p.kind_ne_namespaceKind

end MemoryCluster

/-! ## What heals -/

/-- What some components had lost is there again, as it is synthesized. The rest is as it was, and the
tenant is said to be ready. -/
structure Healed (s : Settings) (t : Declaration) (lost : List Component)
    (before after : MemoryCluster) : Prop where
  restored : ∀ p ∈ lost, ∃ m, p.manifest? s t = some m ∧
    after.objects.get? (p.keyFor s t) = some m
  others : ∀ k, k ∉ lost.map (Component.keyFor s t) →
    after.objects.get? k = before.objects.get? k
  ready : ∃ kept, after.tenants.get? (.text t.identifier) = some kept ∧
    kept.body.under "status" "phase" = some (.str "Ready")

section Passes

variable {op : Operator} {n : String} {body : Json} {t : Declaration} {c c' d : MemoryCluster}
  {r : PassResult}

theorem Settled.owned (h : Settled op c n body t) : t.metadata.uid.isSome = true := by
  obtain ⟨child, hb⟩ :=
    (h.components .secret (Component.isNeeded_of_not_isForAutoscaling rfl t)).built
  obtain ⟨o, ho, -⟩ := Except.map_eq_ok_iff.1 hb
  rw [Owner.of] at ho
  cases hu : t.metadata.uid with
  | none => simp [hu] at ho
  | some uid => rfl

/-- What a settled tenant has lost, a pass makes again, and it makes nothing else. -/
theorem Settled.restores (h : Settled op c n body t) (ha : Advances op t c' r d)
    {lost : List Component} (hlost : ∀ p ∈ lost, p.isNeeded t = true)
    (hc' : ∀ k, c'.objects.get? k =
      if k ∈ lost.map (Component.keyFor op.settings t) then none else c.objects.get? k) :
    r.outcome = .converged ∧
    (∀ p ∈ lost, ∃ m, p.manifest? op.settings t = some m ∧
      d.objects.get? (p.keyFor op.settings t) = some m) ∧
    ∀ k, k ∉ lost.map (Component.keyFor op.settings t) →
      d.objects.get? k = c.objects.get? k := by
  have hspace : (c'.objects.get? (Names.spaceKey op.settings t.identifier)).isSome = true := by
    have hnot : Names.spaceKey op.settings t.identifier ∉
        lost.map (Component.keyFor op.settings t) := by
      intro hmem
      obtain ⟨p, -, hp⟩ := List.mem_map.1 hmem
      exact p.keyFor_ne_spaceKey op.settings t hp.symm
    rw [hc', if_neg hnot]
    exact h.space.2
  refine ⟨by rw [ha.outcome, hspace]; rfl, fun p hp => ?_, fun k hk => ?_⟩
  · obtain ⟨m, hm⟩ := Option.isSome_iff_exists.1 (ha.components hspace p (hlost p hp))
    have hgone : c'.objects.get? (p.keyFor op.settings t) = none := by
      rw [hc', if_pos (List.mem_map_of_mem hp)]
    obtain ⟨rfl | ⟨q, child, -, hb, rfl⟩, hkey⟩ := ha.adds.new hgone hm
    · exact absurd hkey (p.keyFor_ne_spaceKey op.settings t)
    · obtain rfl : q = p := Component.keyFor_inj ((Component.key_of_build hb).symm.trans hkey)
      exact ⟨_, Component.manifest?_of_build hb, hm⟩
  · have hsame := hc' k
    rw [if_neg hk] at hsame
    cases hthere : c.objects.get? k with
    | some m => exact ha.adds.keeps (hsame.trans hthere)
    | none =>
      cases hnew : d.objects.get? k with
      | none => rfl
      | some m =>
        -- All that a pass may make was there already, if it was not lost.
        obtain ⟨rfl | ⟨q, child, hq, hb, rfl⟩, hkey⟩ := ha.adds.new (hsame.trans hthere) hnew
        · rw [key_space] at hkey
          rw [hkey, hsame, hthere] at hspace
          exact absurd hspace (by simp)
        · have hshown := (h.components q hq).shown.2
          rw [show q.keyFor op.settings t = k from (Component.key_of_build hb).symm.trans hkey,
            hthere] at hshown
          exact absurd hshown (by simp)

end Passes

/-! ## What is said of it -/

theorem Json.under_of_orElse {part : String} {key : Key} {body j v : Json}
    (hj : body.field part = .ok j) (h : (j.orElse (.obj [])).get? key = some v) :
    body.under part key = some v := by
  cases body with
  | obj fields =>
    obtain rfl := Except.ok.inj hj
    rw [orElse] at h
    split at h
    · rw [under, get?_obj]
      cases hg : Fields.get? part fields with
      | none =>
        rw [hg] at h
        exact absurd h (by simp [ofOption, get?])
      | some found =>
        rw [hg] at h
        exact h
    · exact absurd h (by simp)
  | _ => exact absurd hj (by simp [field])

namespace PassResult

variable {s : Settings} {now : Time.Instant} {name body : Json} {t : Declaration}
  {created : List String}

theorem phase_of_patch_eq_none (h : (ready name body t created).patch s now = .ok none) :
    body.under "status" "phase" = some (.str "Ready") := by
  obtain ⟨status, written, hstatus, hwritten, ⟨hunchanged, -⟩ | ⟨time, habsurd⟩⟩ :=
    patch_eq_ok rfl h
  · obtain ⟨_, _, _, _, _, _, _, -, -, -, -, -, -, -, rfl⟩ := statusFields_ready.1 hwritten
    have hsame : (Json.ofOption ((status.orElse (.obj [])).get? "phase")).same (.str "Ready") =
        true := List.all_eq_true.1 hunchanged _ List.mem_cons_self
    exact Json.under_of_orElse hstatus (Json.eq_some_of_ofOption (Json.same_str.1 hsame) (by simp))
  · exact absurd habsurd (by simp)

theorem phase_of_patch {patch : Json}
    (h : (ready name body t created).patch s now = .ok (some patch)) :
    ∃ changes, patch = .obj changes ∧ ∀ fields,
      Fields.get? "phase" (Fields.overlay fields changes) = some (.str "Ready") := by
  obtain ⟨status, written, -, hwritten, ⟨-, habsurd⟩ | ⟨time, hpatch⟩⟩ := patch_eq_ok rfl h
  · exact absurd habsurd (by simp)
  · obtain ⟨_, _, _, _, _, _, _, -, -, -, -, -, -, -, rfl⟩ := statusFields_ready.1 hwritten
    exact ⟨_, Option.some.inj hpatch, fun fields =>
      get?_overlay_readyFields fields List.mem_cons_self⟩

end PassResult

theorem MemoryCluster.silent_of_statusFields {body : Json} {fault : Fault}
    (h : statusFields body = .error fault) :
    (∀ key, body.under "status" key = none) ∧ fault.isNotFound = false := by
  rw [statusFields] at h
  cases hs : body.get? "status" with
  | none =>
    rw [hs] at h
    exact absurd h (by simp)
  | some status =>
    rw [hs] at h
    have hsilent : ∀ key, body.under "status" key = status.get? key := by
      intro key
      rw [Json.under, hs]
      rfl
    cases status with
    | obj fields => exact absurd h (by simp)
    | _ =>
      obtain rfl := Except.error.inj h
      exact ⟨hsilent, rfl⟩

/-- Without failures, a settled tenant stays settled when a pass is reported, and it is said to be
ready: by the report, or else since it was before. -/
theorem Settled.reported {op : Operator} {n : String} {body : Json} {t : Declaration}
    {w : World MemoryCluster} (h : Settled op w.cluster n body t) (hf : w.cluster.failures = [])
    (now : Time.Instant) (created : List String)
    (hsaid : body.under "status" "phase" = some (.str "Ready") ∨
      ((op.publish now (.ready (.str n) body t created)).run w).1 = .ok ()) :
    let after := ((op.publish now (.ready (.str n) body t created)).run w).2.cluster
    after.objects = w.cluster.objects ∧ after.failures = [] ∧ ∃ body',
      Settled op after n body' t ∧ body'.under "status" "phase" = some (.str "Ready") := by
  cases hpatch : (PassResult.ready (.str n) body t created).patch op.settings now with
  | error fault =>
    rw [Operator.run_publish_of_error hpatch] at hsaid ⊢
    exact ⟨rfl, hf, body, h, hsaid.resolve_right (by simp)⟩
  | ok patch =>
    obtain ⟨journal, hrun⟩ := Operator.run_publish hpatch w
    rw [hrun] at hsaid ⊢
    cases patch with
    | none => exact ⟨rfl, hf, body, h, PassResult.phase_of_patch_eq_none hpatch⟩
    | some patch =>
      obtain ⟨kept, hkept, rfl⟩ := h.stored
      obtain ⟨changes, rfl, hphase⟩ := PassResult.phase_of_patch hpatch
      have hname : (PassResult.ready (.str n) kept.body t created).name = .str n := rfl
      simp only [hname, MemoryCluster.run_patchTenantStatus, hf, Table.get?_nil, TenantKey.of_str,
        hkept] at hsaid ⊢
      cases hthere : MemoryCluster.statusFields kept.body with
      | error fault =>
        -- Such a status says nothing, and nothing can be written into it.
        obtain ⟨hsilent, hfault⟩ := MemoryCluster.silent_of_statusFields hthere
        rw [hthere] at hsaid
        obtain hsaid | hsaid := hsaid
        · exact absurd ((hsilent _).symm.trans hsaid) (by simp)
        · simp [unlessGone, hfault] at hsaid
      | ok fields =>
        refine ⟨rfl, hf, _, h.rewritten _ _ _, ?_⟩
        obtain ⟨all, hall, -⟩ := parse_eq_ok.1 h.valid
        rw [hall, Json.under_set_self]
        exact hphase fields

/-! ## One event -/

/-- A pass for a settled tenant heals it, whatever it has lost. -/
theorem Settled.heals {op : Operator} {now : Time.Instant} {n : String} {body : Json}
    {t : Declaration} {c : MemoryCluster} {w w' : World MemoryCluster}
    (h : Settled op c n body t) (hf : c.failures = []) (hn : t.identifier = n)
    (hsaid : body.under "status" "phase" = some (.str "Ready")) {lost : List Component}
    (hlost : ∀ p ∈ lost, p.isNeeded t = true)
    (hw : w.cluster = c.losing (lost.map (Component.keyFor op.settings t)))
    (hruns : op.RunsPass now (.str n) w w') :
    Healed op.settings t lost c w'.cluster := by
  obtain ⟨seen, hseen, hafter⟩ := hruns
  obtain ⟨hfailures, htenants, hobjects⟩ := MemoryCluster.losing_components hf op.settings t lost
  obtain ⟨kept, hkept, rfl⟩ := h.stored
  have hunfailing : seen.cluster.failures = [] := by
    rw [hseen, MemoryCluster.noting_failures, hw, hfailures]
  have hthere : seen.cluster.tenants.get? (.text n) = some kept := by
    rw [hseen, MemoryCluster.noting_tenants, hw, htenants, hkept]
  have hm := metadataOf_of_parse h.valid
  have hpass := ((reconcile_reconciles op (.str n) seen).pursues hthere hm).maintains
    (MemoryCluster.failureOf_eq_none hunfailing _) h.unmarked h.guarded
  -- The pass makes again what was lost, and so it ends settled as the turn before it did.
  have hadvances := hpass.advances hunfailing h.valid h.owned
  obtain ⟨hconverged, hrestored, hothers⟩ := h.restores hadvances hlost fun k => by
    rw [MemoryCluster.noting_objects, hseen, MemoryCluster.noting_objects, hw, hobjects]
  obtain ⟨t', created, hready, -, hsettled⟩ := hpass.settles hconverged
    (MemoryCluster.failureOf_eq_none hunfailing _) hthere rfl hm h.unmarked h.guarded
  obtain rfl : t' = t := Except.ok.inj (hsettled.valid.symm.trans h.valid)
  obtain ⟨hsame, -, body', hsettled', hphase⟩ :=
    hsettled.reported (hpass.failures_eq.trans hunfailing) now created (.inl hsaid)
  rw [hready] at hafter
  rw [hafter]
  obtain ⟨later, hlater, rfl⟩ := hsettled'.stored
  refine ⟨?_, ?_, later, by rw [hn, hlater], hphase⟩
  · intro p hp
    obtain ⟨m, hmanifest, hfound⟩ := hrestored p hp
    exact ⟨m, hmanifest, by rw [hsame, hfound]⟩
  · intro k hk
    rw [hsame, hothers k hk]

/-- An event of any object of a tenant is answered with a pass, if the tenant is found. -/
theorem Operator.runsPass_of_labels (op : Operator) (now : Time.Instant) {t : Declaration}
    {body : Json} {w : World MemoryCluster} (hb : Finds w.cluster (.str t.identifier) body)
    (hv : Declaration.parse body = .ok t) (hd : t.metadata.isMarked = false) {child : Child}
    (hchild : child.IsOf op.settings t) {event : Json}
    (hevent : event.get? "type" = some (.str "DELETED")) :
    op.RunsPass now (.str t.identifier) w
      ((op.onObjectEvent now event (.ofLabels child.labels)).run w).2 := by
  have hm := metadataOf_of_parse hv
  have hlabel := hchild.labelled
  refine (op.runsPass_iff now ?_ event _).2 ⟨hevent, hlabel, ?_, body, hb, ?_⟩
  · intro tenant other hother hfound
    obtain rfl := Option.some.inj (hlabel.symm.trans hother)
    rw [hfound.unique hb]
    exact ⟨_, metadatum_name hm⟩
  · have hname : t.identifier ≠ "" := name_ne_empty hm
    simpa [Json.isTruthy] using hname
  · rw [Bool.eq_false_iff]
    intro htruthy
    exact absurd (hd.symm.trans (isMarked_of_isTruthy hm htruthy)) (by simp)

theorem MemoryCluster.SelfNamed.metadatum_name {c : MemoryCluster} (h : c.SelfNamed)
    {tenant body : Json} (hb : Finds c tenant body) :
    ∃ name, body.metadatum "name" = some name := by
  obtain ⟨key, kept, -, hkept, rfl⟩ := hb.stored
  obtain ⟨name, hname, -⟩ := h key kept hkept
  exact ⟨name, hname⟩

/-- Without failures, a turn that converges leaves its tenant settled, and said to be ready. -/
theorem Operator.settled_of_attend {op : Operator} {now : Time.Instant} {n : String}
    {r : PassResult} {w w' : World MemoryCluster} (hw : w.cluster.SelfNamed)
    (hf : w.cluster.failures = []) (hrun : (op.attend now (.str n)).run w = (.ok r, w'))
    (hc : r.outcome = .converged) (hb : r.body.isSome = true) :
    w'.cluster.failures = [] ∧ ∃ t body, r.declaration = some t ∧ t.identifier = n ∧
      Settled op w'.cluster n body t ∧ body.under "status" "phase" = some (.str "Ready") := by
  obtain ⟨rfl, hpublish⟩ := Operator.attend_eq_ok hrun
  have hpass := reconcile_reconciles op (.str n) w
  obtain ⟨-, after, t, created, -, hready, ht, hsettled, -⟩ := hpass.settles (hw.knowsAs n) hc hb
  rw [hready] at hpublish
  have hreported := hsettled.reported (hpass.lasts (.failures []) hf) now created
    (.inr (by rw [hpublish]))
  rw [hpublish] at hreported
  obtain ⟨-, hf', body, hsettled', hphase⟩ := hreported
  exact ⟨hf', t, body, by rw [hready]; rfl, ht, hsettled', hphase⟩

/-- The handler of events runs a pass exactly when it is told of a deleted object that is labelled
with a tenant, and this tenant is found and is not being deleted; otherwise it looks for the tenant
at most. Once a turn for a tenant has converged and nothing fails, any of its objects may be lost,
and an event of any one of them brings back all that were. -/
theorem events_heal (op : Operator) (now : Time.Instant) {w : World MemoryCluster}
    (hw : w.cluster.SelfNamed) :
    (∀ event labels : Json,
      let w' := ((op.onObjectEvent now event labels).run w).2
      (∀ tenant, op.RunsPass now tenant w w' ↔ Wakes w.cluster event labels tenant) ∧
      ((∀ tenant, ¬ Wakes w.cluster event labels tenant) → ∃ looks : List Call,
        (∀ call ∈ looks, call.verb = .readTenant) ∧ w'.cluster = w.cluster.behind looks)) ∧
    (∀ n r w₁, w.cluster.failures = [] → (op.attend now (.str n)).run w = (.ok r, w₁) →
      r.outcome = .converged → r.body.isSome = true →
      ∃ t, r.declaration = some t ∧ t.identifier = n ∧
        ∀ (lost : List Component) (child : Child) (event : Json) (later : Time.Instant),
          (∀ p ∈ lost, p.isNeeded t = true) → child.IsOf op.settings t →
          event.get? "type" = some (.str "DELETED") →
          let w₂ : World MemoryCluster :=
            { w₁ with cluster := w₁.cluster.losing (lost.map (Component.keyFor op.settings t)) }
          Healed op.settings t lost w₁.cluster
            ((op.onObjectEvent later event (.ofLabels child.labels)).run w₂).2.cluster) := by
  constructor
  · intro event labels w'
    have hnamed := fun tenant body (_ : labels.get? Names.labelKey = some tenant)
      (hb : Finds w.cluster tenant body) => hw.metadatum_name hb
    refine ⟨fun tenant => op.runsPass_iff now hnamed event tenant, fun hnone => ?_⟩
    obtain ⟨tenant, hwakes, -⟩ | ⟨-, looks, hafter, -, hreads⟩ :=
      op.onObjectEvent_cases now hnamed event
    · exact absurd hwakes (hnone tenant)
    · exact ⟨looks, hreads, hafter⟩
  · intro n r w₁ hf hrun hc hb
    obtain ⟨hf₁, t, body, hdeclared, ht, hsettled, hphase⟩ :=
      Operator.settled_of_attend hw hf hrun hc hb
    refine ⟨t, hdeclared, ht, fun lost child event later hlost hchild hevent => ?_⟩
    intro w₂
    obtain ⟨hfailures, htenants, -⟩ := MemoryCluster.losing_components hf₁ op.settings t lost
    obtain ⟨kept, hkept, hbody⟩ := hsettled.stored
    have hfound : Finds w₂.cluster (.str t.identifier) body :=
      ⟨MemoryCluster.failureOf_eq_none hfailures _, .text n, kept, by rw [ht]; rfl,
        by rw [htenants, hkept], hbody⟩
    have hruns := op.runsPass_of_labels later hfound hsettled.valid hsettled.unmarked hchild hevent
    rw [ht] at hruns
    exact hsettled.heals hf₁ ht hphase hlost rfl hruns

/-- A turn makes the components of a tenant, after one that made its namespace. The secret and the
deployment are lost then, and an event of the ingress brings them back. -/
theorem events_heal_plain :
    let op : Operator := {}
    let w : World MemoryCluster :=
      ((op.attend 0 (.str "a")).run { cluster := .joinedBy {} [plainTenant "a"] }).2
    ∃ r w₁ t child, (op.attend 60 (.str "a")).run w = (.ok r, w₁) ∧ r.declaration = some t ∧
      Component.ingress.build {} t (some "tenant-a") = .ok child ∧
      let lost : List Component := [.secret, .deployment]
      let w₂ : World MemoryCluster :=
        { w₁ with cluster := w₁.cluster.losing (lost.map (Component.keyFor {} t)) }
      Healed {} t lost w₁.cluster ((op.onObjectEvent 120 (.obj [("type", .str "DELETED")])
        (.ofLabels child.labels)).run w₂).2.cluster := by
  intro op w
  have hself : w.cluster.SelfNamed := MemoryCluster.selfNamed_of_all (by decide +kernel)
  have hf : w.cluster.failures = [] := List.isEmpty_iff.1 (by decide +kernel)
  obtain ⟨r, w₁, -, hrun, hc, hb, -⟩ := @Operator.attend_of_any op 60 "a" w (by decide +kernel)
  have howned : ((op.attend 60 (.str "a")).run w).1.toOption.any
      (·.declaration.any (·.metadata.uid.isSome)) = true := by decide +kernel
  clear_value w
  obtain ⟨t, ht, hid, hheals⟩ := (events_heal op 60 hself).2 "a" r w₁ hf hrun hc hb
  have huid : t.metadata.uid.isSome = true := by simpa [hrun, Except.toOption, ht] using howned
  obtain ⟨child, hchild⟩ := Component.build_eq_ok (s := op.settings) huid (some "tenant-a") .ingress
  have hspace : Names.space op.settings t.identifier = "tenant-a" := by
    rw [hid]
    rfl
  refine ⟨r, w₁, t, child, hrun, ht, hchild, ?_⟩
  have hneeded := fun p (hp : Component.isForAutoscaling p = false) =>
    Component.isNeeded_of_not_isForAutoscaling hp t
  refine hheals _ child _ 120 ?_ (.component (hneeded .ingress rfl) ?_) rfl
  · exact List.forall_mem_cons.2 ⟨hneeded .secret rfl, List.forall_mem_singleton.2
      (hneeded .deployment rfl)⟩
  · rw [hspace]
    exact hchild

end MoodleTenancy
