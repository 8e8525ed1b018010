import MoodleTenancy.Proofs.Isolation
import MoodleTenancy.Proofs.Recovery

/-!
# Departure

A tenant that is marked for deletion goes once a pass for it meets no failure, whatever the rest of
its body says. Passes that were cut short before leave it as it is, and can be run again.

* `Leaving`: a stored tenant that is marked for deletion and has the guard.
* `Failures.beforeClosing`, `Failures.beforeRelease`: what keeps a pass from deleting the tenant's
  namespace, and from taking the guard off.
* `Departs`: what one pass comes to. `Delays`: what passes that are cut short come to.
* `Departed`: what there is once the guard is off.
* `Left`: a tenant that passes have nothing to do with any more.
* `departure_completes`: passes that are cut short, then one that is not, and those behind it.
-/

namespace MoodleTenancy
set_option autoImplicit false

/-! ## Failures on the way -/

namespace Failures

/-- The failure that keeps a pass for a leaving tenant from deleting its namespace. -/
def beforeClosing (f : Failures) : Option Fault :=
  (f.get? (.readTenant, none)).or (f.get? (.delete, some .namespaceKind))

/-- The failure that keeps a pass for a leaving tenant from taking the guard off. -/
def beforeRelease (f : Failures) : Option Fault :=
  f.beforeClosing.or (f.get? (.replaceTenant, none))

theorem beforeClosing_eq_none {f : Failures} (h : f.beforeRelease = none) :
    f.beforeClosing = none := by
  rw [beforeRelease, Option.or_eq_none_iff] at h
  exact h.1

end Failures

namespace Operator

/-- The result of a pass for a leaving tenant. -/
def departureResult (n : String) (f : Failures) : PassResult :=
  f.beforeRelease.elim (.start (.str n)) (PassResult.start (.str n)).aborted

/-- The calls of a pass for a leaving tenant, up to the first that fails. -/
def departureCalls (op : Operator) (n : String) (f : Failures) : List Call :=
  let space := Names.spaceKey op.settings n
  if (f.get? (.readTenant, none)).isSome then [.readingTenant (.str n)]
  else if f.beforeClosing.isSome then [.readingTenant (.str n), .deleting space]
  else [.readingTenant (.str n), .deleting space, .replacingTenant n]

/-- The finalizers of others. -/
def foreign (op : Operator) (m : Metadata) : List String := m.finalizers.filter (· != op.guard)

end Operator

/-! ## Tenants that are leaving -/

/-- A tenant that is stored under its name, with readable metadata and a version, that is marked for
deletion and has the guard. -/
structure Leaving (op : Operator) (c : MemoryCluster) (n : String) (kept : StoredTenant)
    (m : Metadata) : Prop where
  stored : c.tenants.get? (.text n) = some kept
  readable : metadataOf kept.body = .ok m
  named : m.name = n
  versioned : (kept.body.metadatum "resourceVersion").isSome = true
  stamped : ∃ time, kept.body.metadatum "deletionTimestamp" = some (.str time) ∧ time ≠ ""
  guarded : m.finalizers.contains op.guard = true

namespace Leaving

variable {op : Operator} {c d : MemoryCluster} {n : String} {kept : StoredTenant} {m : Metadata}

theorem marked (h : Leaving op c n kept m) : m.isMarked = true := by
  obtain ⟨time, hstamp, htime⟩ := h.stamped
  refine isMarked_of_isTruthy h.readable ?_
  rw [hstamp]
  simpa [Json.ofOption, Json.isTruthy] using htime

theorem of_tenants (h : Leaving op c n kept m) (ht : d.tenants = c.tenants) :
    Leaving op d n kept m := by
  obtain ⟨hstored, hreadable, hnamed, hversioned, hstamped, hguarded⟩ := h
  exact ⟨by rw [ht, hstored], hreadable, hnamed, hversioned, hstamped, hguarded⟩

/-- The form without the guard is taken unless the call for it fails. -/
theorem refusal_eq (h : Leaving op c n kept m) :
    c.refusal n (op.releasedForm kept.body m) = c.failureOf (.replacingTenant n) := by
  cases hf : c.failureOf (.replacingTenant n) with
  | some fault => simp [MemoryCluster.refusal, hf]
  | none =>
    obtain ⟨v, hv⟩ := Option.isSome_iff_exists.1 h.versioned
    have hsent : (op.releasedForm kept.body m).metadatum "resourceVersion" = some v := by
      rw [Operator.releasedForm, replaceFinalizers_eq, metadatum_setMetadata_ne (by decide), hv]
    exact MemoryCluster.refusal_eq_none hf h.stored hv hsent
      (MemoryCluster.same_of_metadatum_version h.readable hv)

end Leaving

/-! ## One pass -/

/-- What a pass for a leaving tenant comes to under failures. -/
structure Departs (op : Operator) (n : String) (kept : StoredTenant) (m : Metadata) (f : Failures)
    (c : MemoryCluster) (r : PassResult) (d : MemoryCluster) : Prop where
  result : r = Operator.departureResult n f
  objects : d.objects =
    (if f.beforeClosing.isSome then c else c.emptied (Names.spaceKey op.settings n)).objects
  tenants : d.tenants = if f.beforeRelease.isSome then c.tenants
    else c.tenantsWith n kept ((op.releasedForm kept.body m).withVersion c.version)
  version : f.beforeRelease.isSome = true → d.nextVersion = c.nextVersion
  calls : d.calls = c.calls ++ op.departureCalls n f
  patches : d.patches = c.patches

namespace Departs

variable {op : Operator} {n : String} {kept : StoredTenant} {m : Metadata} {f : Failures}
  {c : MemoryCluster} {fault : Fault}

theorem unread (h : f.get? (.readTenant, none) = some fault) :
    Departs op n kept m f c ((PassResult.start (.str n)).aborted fault)
      ((c.failing f).noting (.readingTenant (.str n))) := by
  have hclosing : f.beforeClosing = some fault := by simp [Failures.beforeClosing, h]
  have hrelease : f.beforeRelease = some fault := by simp [Failures.beforeRelease, hclosing]
  constructor <;> simp [Operator.departureResult, Operator.departureCalls, hclosing, hrelease, h,
    MemoryCluster.failing, MemoryCluster.noting]

theorem undeleted (h : f.get? (.readTenant, none) = none)
    (hd : f.get? (.delete, some .namespaceKind) = some fault) :
    Departs op n kept m f c ((PassResult.start (.str n)).aborted fault)
      (((c.failing f).noting (.readingTenant (.str n))).noting
        (.deleting (Names.spaceKey op.settings n))) := by
  have hclosing : f.beforeClosing = some fault := by simp [Failures.beforeClosing, h, hd]
  have hrelease : f.beforeRelease = some fault := by simp [Failures.beforeRelease, hclosing]
  constructor <;> simp [Operator.departureResult, Operator.departureCalls, hclosing, hrelease, h,
    MemoryCluster.failing, MemoryCluster.noting]

/-- The cluster after the namespace is deleted and before the guard is taken off. -/
def closed (op : Operator) (n : String) (f : Failures) (c : MemoryCluster) : MemoryCluster :=
  (((c.failing f).noting (.readingTenant (.str n))).noting
    (.deleting (Names.spaceKey op.settings n))).emptied (Names.spaceKey op.settings n)

theorem objects_closed : (closed op n f c).objects =
    (c.emptied (Names.spaceKey op.settings n)).objects := by
  simp only [closed, MemoryCluster.emptied, MemoryCluster.noting_objects]
  simp only [MemoryCluster.failing]
  split <;> rfl

theorem unreplaced (h : f.beforeClosing = none)
    (hr : f.get? (.replaceTenant, none) = some fault) :
    Departs op n kept m f c ((PassResult.start (.str n)).aborted fault)
      ((closed op n f c).noting (.replacingTenant n)) := by
  have hread := (Option.or_eq_none_iff.1 h).1
  have hrelease : f.beforeRelease = some fault := by simp [Failures.beforeRelease, h, hr]
  refine ⟨?_, ?_, ?_, ?_, ?_, ?_⟩
  · rw [Operator.departureResult, hrelease]
    rfl
  · rw [MemoryCluster.noting_objects, objects_closed, h]
    rfl
  · simp [hrelease, closed, MemoryCluster.failing]
  · intro _
    simp only [MemoryCluster.noting, closed, MemoryCluster.emptied]
    split <;> rfl
  · simp [Operator.departureCalls, hread, h, closed, MemoryCluster.failing]
  · simp [closed, MemoryCluster.noting, MemoryCluster.failing]

theorem replaced (h : f.beforeRelease = none) :
    Departs op n kept m f c (.start (.str n))
      (((closed op n f c).noting (.replacingTenant n)).replaced n kept
        ((op.releasedForm kept.body m).withVersion (closed op n f c).version)) := by
  have hclosing := Failures.beforeClosing_eq_none h
  have hread := (Option.or_eq_none_iff.1 hclosing).1
  have htenants : (closed op n f c).tenants = c.tenants := by simp [closed, MemoryCluster.failing]
  have hversion : (closed op n f c).version = c.version := by
    simp only [closed, MemoryCluster.emptied, MemoryCluster.version]
    split <;> rfl
  refine ⟨?_, ?_, ?_, ?_, ?_, ?_⟩
  · rw [Operator.departureResult, h]
    rfl
  · rw [hclosing]
    exact objects_closed
  · simp only [h, MemoryCluster.replaced_tenants, MemoryCluster.tenantsWith, hversion,
      MemoryCluster.noting_tenants, htenants]
    rfl
  · intro hf
    rw [h] at hf
    exact absurd hf (by simp)
  · simp [Operator.departureCalls, hread, hclosing, closed, MemoryCluster.failing]
  · simp [closed, MemoryCluster.replaced, MemoryCluster.noting, MemoryCluster.failing]

end Departs

theorem Leaving.departs {op : Operator} {n : String} {kept : StoredTenant} {m : Metadata}
    {f : Failures} {c d : MemoryCluster} {r : PassResult} (h : Leaving op c n kept m)
    (hr : Reconciles op (.str n) (c.failing f) r d) : Departs op n kept m f c r d := by
  have hf : Leaving op (c.failing f) n kept m := h.of_tenants rfl
  have hrefusal := hf.refusal_eq
  cases hr.pursues hf.stored h.readable with
  | unread hread => exact .unread hread
  | released hread hd hg => exact absurd (hg.symm.trans h.guarded) (by simp)
  | guarded hread hd => exact absurd (hd.symm.trans h.marked) (by simp)
  | unguarded hread hd => exact absurd (hd.symm.trans h.marked) (by simp)
  | newlyGuarded hread hd => exact absurd (hd.symm.trans h.marked) (by simp)
  | uncleaned hread hd hg hcl =>
    cases hcl with
    | undeleted hdel =>
      rw [h.named] at hdel ⊢
      exact .undeleted hread hdel
    | deleted hdel hrep =>
      rw [h.named] at hdel hrep
      have hclosing : f.beforeClosing = none := Option.or_eq_none_iff.2 ⟨hread, hdel⟩
      cases hrep with
      | refused hrefused =>
        rw [MemoryCluster.refusal_emptied, MemoryCluster.refusal_noting,
          MemoryCluster.refusal_noting, hrefusal] at hrefused
        exact .unreplaced hclosing hrefused
  | cleaned hread hd hg hcl =>
    cases hcl with
    | deleted hdel hrep =>
      rw [h.named] at hdel hrep
      have hclosing : f.beforeClosing = none := Option.or_eq_none_iff.2 ⟨hread, hdel⟩
      cases hrep with
      | taken htaken hcurrent =>
        rw [MemoryCluster.refusal_emptied, MemoryCluster.refusal_noting,
          MemoryCluster.refusal_noting, hrefusal] at htaken
        rw [MemoryCluster.emptied_tenants] at hcurrent
        obtain rfl := Option.some.inj (h.stored.symm.trans hcurrent)
        exact .replaced (Option.or_eq_none_iff.2 ⟨hclosing, htaken⟩)

/-! ## Passes that are cut short -/

namespace MemoryCluster

variable {c d : MemoryCluster}

theorem objects_emptied_congr (h : d.objects = c.objects) (key : ObjectKey) :
    (d.emptied key).objects = (c.emptied key).objects := by
  rw [emptied, emptied, h]
  split
  · exact h
  · rfl

/-- What is gone cannot be deleted again. -/
theorem emptied_emptied (c : MemoryCluster) (key : ObjectKey) :
    (c.emptied key).emptied key = c.emptied key := by
  have hnone := c.get?_emptied_self key
  generalize c.emptied key = e at hnone
  rw [emptied, hnone]

end MemoryCluster

/-- What passes for a leaving tenant come to that are cut short, each under failures of its own.
They keep the tenant, and its namespace is gone if one of them got as far. -/
structure Delays (op : Operator) (n : String) (fs : List Failures) (c : MemoryCluster)
    (rs : List PassResult) (d : MemoryCluster) : Prop where
  results : rs = fs.map (Operator.departureResult n)
  objects : d.objects = (if fs.all (·.beforeClosing.isSome) then c
    else c.emptied (Names.spaceKey op.settings n)).objects
  tenants : d.tenants = c.tenants
  version : d.nextVersion = c.nextVersion
  calls : d.calls = c.calls ++ fs.flatMap (op.departureCalls n)
  patches : d.patches = c.patches

theorem Delays.nil (op : Operator) (n : String) (c : MemoryCluster) : Delays op n [] c [] c := by
  constructor <;> simp

theorem Delays.cons {op : Operator} {n : String} {kept : StoredTenant} {m : Metadata} {f : Failures}
    {fs : List Failures} {c d e : MemoryCluster} {r : PassResult} {rs : List PassResult}
    (h : Departs op n kept m f c r d) (hf : f.beforeRelease.isSome = true)
    (hrest : Delays op n fs d rs e) : Delays op n (f :: fs) c (r :: rs) e where
  results := by rw [h.result, hrest.results, List.map_cons]
  objects := by
    have hobjects := h.objects
    rw [hrest.objects, List.all_cons]
    cases hclosing : f.beforeClosing.isSome with
    | true =>
      rw [hclosing, if_pos rfl] at hobjects
      rw [Bool.true_and]
      split
      · exact hobjects
      · exact MemoryCluster.objects_emptied_congr hobjects _
    | false =>
      rw [hclosing, if_neg Bool.false_ne_true] at hobjects
      rw [Bool.false_and, if_neg Bool.false_ne_true]
      -- The namespace is gone already, whether or not a later pass deletes it again.
      split
      · exact hobjects
      · rw [MemoryCluster.objects_emptied_congr hobjects, MemoryCluster.emptied_emptied]
  tenants := by rw [hrest.tenants, h.tenants, if_pos hf]
  version := hrest.version.trans (h.version hf)
  calls := by rw [hrest.calls, h.calls, List.append_assoc, List.flatMap_cons]
  patches := hrest.patches.trans h.patches

theorem Leaving.delays {op : Operator} {n : String} {kept : StoredTenant} {m : Metadata}
    {fs : List Failures} {w : World MemoryCluster} (h : Leaving op w.cluster n kept m)
    (hfs : ∀ f ∈ fs, f.beforeRelease.isSome = true) :
    Delays op n fs w.cluster (op.passesUnder (.str n) fs w).1
      (op.passesUnder (.str n) fs w).2.cluster := by
  induction fs generalizing w with
  | nil => exact .nil op n w.cluster
  | cons f fs ih =>
    have hf := hfs f List.mem_cons_self
    have hpass := h.departs (reconcile_reconciles op (.str n) (w.failing f))
    have hstill : Leaving op (op.reconcile (.str n) (w.failing f)).2.cluster n kept m := by
      refine h.of_tenants ?_
      rw [hpass.tenants, if_pos hf]
    exact .cons hpass hf (ih hstill fun g hg => hfs g (List.mem_cons_of_mem _ hg))

/-- What the last of some passes comes to, if it is the first that is not cut short. -/
structure Ends (op : Operator) (n : String) (kept : StoredTenant) (m : Metadata)
    (fs : List Failures) (f : Failures) (c : MemoryCluster) (r : PassResult) (d : MemoryCluster) :
    Prop where
  result : r = .start (.str n)
  objects : d.objects = (c.emptied (Names.spaceKey op.settings n)).objects
  tenants : d.tenants = c.tenantsWith n kept ((op.releasedForm kept.body m).withVersion c.version)
  calls : d.calls = c.calls ++ fs.flatMap (op.departureCalls n) ++ op.departureCalls n f
  patches : d.patches = c.patches

theorem Delays.ends {op : Operator} {n : String} {kept : StoredTenant} {m : Metadata}
    {fs : List Failures} {f : Failures} {c d e : MemoryCluster} {r : PassResult}
    {rs : List PassResult} (hd : Delays op n fs c rs d) (h : Departs op n kept m f d r e)
    (hf : f.beforeRelease = none) : Ends op n kept m fs f c r e where
  result := by
    rw [h.result, Operator.departureResult, hf]
    rfl
  objects := by
    have hobjects := h.objects
    rw [Failures.beforeClosing_eq_none hf, if_neg (by simp)] at hobjects
    rw [hobjects, MemoryCluster.objects_emptied_congr hd.objects]
    split
    · rfl
    · rw [MemoryCluster.emptied_emptied]
  tenants := by
    have hversion : d.version = c.version := by
      rw [MemoryCluster.version, hd.version, MemoryCluster.version]
    rw [h.tenants, hf, if_neg (by simp), MemoryCluster.tenantsWith, MemoryCluster.tenantsWith,
      hd.tenants, hversion]
  calls := by rw [h.calls, hd.calls]
  patches := h.patches.trans hd.patches

theorem Leaving.ends {op : Operator} {n : String} {kept : StoredTenant} {m : Metadata}
    {fs : List Failures} {f : Failures} {w : World MemoryCluster}
    (h : Leaving op w.cluster n kept m) (hfs : ∀ f ∈ fs, f.beforeRelease.isSome = true)
    (hf : f.beforeRelease = none) :
    let earlier := (op.passesUnder (.str n) fs w).2
    Ends op n kept m fs f w.cluster (op.reconcile (.str n) (earlier.failing f)).1
      (op.reconcile (.str n) (earlier.failing f)).2.cluster := by
  intro earlier
  have hdelays := h.delays hfs
  have hstill : Leaving op earlier.cluster n kept m := h.of_tenants hdelays.tenants
  exact hdelays.ends (hstill.departs (reconcile_reconciles op (.str n) (earlier.failing f))) hf

/-! ## Once the guard is off -/

theorem isReleased_eq_isEmpty {body : Json} {time : String} {items : List Json}
    (hd : body.metadatum "deletionTimestamp" = some (.str time)) (ht : time ≠ "")
    (hf : body.metadatum "finalizers" = some (.arr items)) :
    MemoryCluster.isReleased (.ofOption (body.get? "metadata")) = items.isEmpty := by
  rw [Json.metadatum, Option.bind_eq_some_iff] at hd
  obtain ⟨md, hmd, hd⟩ := hd
  simp only [Json.metadatum, hmd, Option.bind_some] at hf
  simp [MemoryCluster.isReleased, hmd, Json.ofOption, hd, hf, Json.isTruthy, ht]

/-- What there is once the guard of a tenant is off: its namespace is gone with all that was in it,
and the tenant is gone unless it has other finalizers, in which case the rest of it stays. -/
structure Departed (op : Operator) (n : String) (kept : StoredTenant) (m : Metadata)
    (c d : MemoryCluster) : Prop where
  objects (k : ObjectKey) : d.objects.get? k =
    if (c.objects.get? (Names.spaceKey op.settings n)).isSome ∧
      (k = Names.spaceKey op.settings n ∨ k.namespaceName = some (Names.space op.settings n))
    then none else c.objects.get? k
  tenant : d.tenants.get? (.text n) = if op.foreign m = [] then none
    else some ⟨kept.name,
      (kept.body.setMetadata "finalizers" (.strings (op.foreign m))).withVersion c.version⟩
  others (key : TenantKey) : key ≠ .text n → d.tenants.get? key = c.tenants.get? key
  patches : d.patches = c.patches

theorem Ends.departed {op : Operator} {n : String} {kept : StoredTenant} {m : Metadata}
    {fs : List Failures} {f : Failures} {c d : MemoryCluster} {r : PassResult}
    (he : Ends op n kept m fs f c r d) (h : Leaving op c n kept m) : Departed op n kept m c d where
  objects k := by
    rw [he.objects, MemoryCluster.get?_emptied]
    exact ite_congr (by simp [Names.spaceKey]) (fun _ => rfl) fun _ => rfl
  tenant := by
    obtain ⟨time, hstamp, htime⟩ := h.stamped
    have hstamp' : ((op.releasedForm kept.body m).withVersion c.version).metadatum
        "deletionTimestamp" = some (.str time) := by
      rw [Operator.releasedForm, replaceFinalizers_eq, Json.withVersion,
        metadatum_setMetadata_ne (by decide), metadatum_setMetadata_ne (by decide), hstamp]
    have hforeign : ((op.releasedForm kept.body m).withVersion c.version).metadatum "finalizers" =
        some (.arr ((op.foreign m).map .str)) := by
      rw [Operator.releasedForm, replaceFinalizers_eq, Json.withVersion,
        metadatum_setMetadata_ne (by decide), metadatum_setMetadata_self h.readable]
      rfl
    have hreleased := isReleased_eq_isEmpty hstamp' htime hforeign
    rw [he.tenants, MemoryCluster.tenantsWith, hreleased]
    by_cases hnone : op.foreign m = []
    · rw [if_pos hnone, if_pos (by simp [hnone]), Table.get?_erase, if_pos rfl]
    · rw [if_neg hnone, if_neg (by simp [hnone]), Table.get?_insert_self]
      rfl
  others key hkey := by
    rw [he.tenants, MemoryCluster.tenantsWith]
    split
    · rw [Table.get?_erase, if_neg hkey]
    · rw [Table.get?_insert_ne hkey.symm]
  patches := he.patches

/-! ## Passes behind -/

/-- A tenant that is not stored, or is marked for deletion and does not have the guard. -/
def Left (op : Operator) (c : MemoryCluster) (n : String) : Prop :=
  c.tenants.get? (.text n) = none ∨
    ∃ kept m, c.tenants.get? (.text n) = some kept ∧ metadataOf kept.body = .ok m ∧
      m.isMarked = true ∧ m.finalizers.contains op.guard = false

theorem Reconciles.eq_noting_of_absent {op : Operator} {n : String} {c d : MemoryCluster}
    {r : PassResult} (hr : Reconciles op (.str n) c r d) (hk : c.tenants.get? (.text n) = none) :
    d = c.noting (.readingTenant (.str n)) := by
  have hnone : ∀ {body : Json}, ¬ Finds c (.str n) body := by
    rintro body ⟨-, key, kept, hkey, hk', -⟩
    obtain rfl := Except.ok.inj ((TenantKey.of_str n).symm.trans hkey)
    exact absurd (hk.symm.trans hk') (by simp)
  cases hr with
  | unread => rfl
  | unnamed => rfl
  | absent => rfl
  | unstaged => rfl
  | released => rfl
  | uncleaned hb => exact absurd hb hnone
  | cleaned hb => exact absurd hb hnone
  | guarded hb => exact absurd hb hnone
  | unguarded hb => exact absurd hb hnone
  | newlyGuarded hb => exact absurd hb hnone

namespace Left

variable {op : Operator} {n : String} {c d : MemoryCluster}

theorem eq_noting (h : Left op c n) {r : PassResult} (hr : Reconciles op (.str n) c r d) :
    d = c.noting (.readingTenant (.str n)) := by
  obtain hk | ⟨kept, m, hk, hm, hd, hg⟩ := h
  · exact hr.eq_noting_of_absent hk
  · cases hr.pursues hk hm with
    | unread => rfl
    | released => rfl
    | uncleaned hf hd' hg' => exact absurd (hg.symm.trans hg') (by simp)
    | cleaned hf hd' hg' => exact absurd (hg.symm.trans hg') (by simp)
    | guarded hf hd' => exact absurd (hd.symm.trans hd') (by simp)
    | unguarded hf hd' => exact absurd (hd.symm.trans hd') (by simp)
    | newlyGuarded hf hd' => exact absurd (hd.symm.trans hd') (by simp)

theorem passesUnder {w : World MemoryCluster} (h : Left op w.cluster n) (fs : List Failures) :
    (op.passesUnder (.str n) fs w).2.cluster.objects = w.cluster.objects ∧
      (op.passesUnder (.str n) fs w).2.cluster.tenants = w.cluster.tenants ∧
      (op.passesUnder (.str n) fs w).2.cluster.patches = w.cluster.patches := by
  induction fs generalizing w with
  | nil => exact ⟨rfl, rfl, rfl⟩
  | cons f rest ih =>
    have hf : Left op (w.cluster.failing f) n := h
    have hafter := hf.eq_noting (reconcile_reconciles op (.str n) (w.failing f))
    have hstill : Left op (op.reconcile (.str n) (w.failing f)).2.cluster n := by
      rw [hafter]
      exact h
    obtain ⟨hobjects, htenants, hpatches⟩ := ih hstill
    rw [hafter] at hobjects htenants hpatches
    exact ⟨hobjects, htenants, hpatches⟩

end Left

theorem Departed.left {op : Operator} {n : String} {kept : StoredTenant} {m : Metadata}
    {c d : MemoryCluster} (h : Leaving op c n kept m) (hd : Departed op n kept m c d) :
    Left op d n := by
  by_cases hnone : op.foreign m = []
  · left
    rw [hd.tenant, if_pos hnone]
  · right
    have hm := metadataOf_withVersion (op.metadataOf_releasedForm h.readable)
      (toString c.nextVersion)
    refine ⟨_, { m with finalizers := op.foreign m, resourceVersion := toString c.nextVersion },
      by rw [hd.tenant, if_neg hnone], hm, h.marked, ?_⟩
    simp [Operator.foreign]

/-! ## Bodies that differ outside their metadata -/

def MemoryCluster.keeping (c : MemoryCluster) (tenants : Table TenantKey StoredTenant) :
    MemoryCluster :=
  { c with tenants := tenants }

theorem Json.get?_setMetadata_of_isSome {body : Json} (h : (body.get? "metadata").isSome = true)
    (key : String) (v : Json) : (body.setMetadata key v).get? "metadata" =
      some ((Json.ofOption (body.get? "metadata")).set key v) := by
  cases body with
  | obj fields => rw [setMetadata, set_obj, get?_obj, Fields.get?_set_self]
  | _ => exact absurd h (by simp [get?])

theorem Json.get?_setMetadata_congr {body other : Json}
    (h : other.get? "metadata" = body.get? "metadata") (hs : (body.get? "metadata").isSome = true)
    (key : String) (v : Json) :
    (other.setMetadata key v).get? "metadata" = (body.setMetadata key v).get? "metadata" := by
  have hs' : (other.get? "metadata").isSome = true := by rw [h, hs]
  rw [get?_setMetadata_of_isSome hs', get?_setMetadata_of_isSome hs, h]

theorem isSome_of_metadataOf {body : Json} {m : Metadata} (h : metadataOf body = .ok m) :
    (body.get? "metadata").isSome = true := by
  obtain ⟨fields, md, rfl, hg, -⟩ := metadataOf_eq_ok.1 h
  rw [Json.get?_obj, hg]
  rfl

theorem metadataOf_congr {body other : Json} {m : Metadata}
    (h : other.get? "metadata" = body.get? "metadata") (hm : metadataOf body = .ok m) :
    metadataOf other = .ok m := by
  obtain ⟨fields, md, rfl, hg, ha⟩ := metadataOf_eq_ok.1 hm
  rw [Json.get?_obj, hg] at h
  cases other with
  | obj fields' => exact metadataOf_eq_ok.2 ⟨fields', md, rfl, h, ha⟩
  | _ => exact absurd h (by simp [Json.get?])

theorem Leaving.congr {op : Operator} {c c' : MemoryCluster} {n : String}
    {kept kept' : StoredTenant} {m : Metadata} (h : Leaving op c n kept m)
    (hk : c'.tenants.get? (.text n) = some kept')
    (hmd : kept'.body.get? "metadata" = kept.body.get? "metadata") : Leaving op c' n kept' m := by
  have hsame : ∀ key, kept'.body.metadatum key = kept.body.metadatum key := by
    intro key
    rw [Json.metadatum, Json.metadatum, hmd]
  obtain ⟨-, hreadable, hnamed, hversioned, hstamped, hguarded⟩ := h
  exact ⟨hk, metadataOf_congr hmd hreadable, hnamed, by rwa [hsame], by rwa [hsame], hguarded⟩

/-- Whatever a leaving tenant's spec and status say, and whether or not there are any: passes that
fail on the way to taking the guard off keep the tenant as it is, and one that does not ends with
the tenant gone, or free of the guard if others keep it. Later passes change nothing. A body with
the same metadata meets the same end. -/
theorem departure_completes (op : Operator) {n : String} {fs : List Failures} {f : Failures}
    {kept : StoredTenant} {m : Metadata} {w : World MemoryCluster}
    (h : Leaving op w.cluster n kept m) (hfs : ∀ f ∈ fs, f.beforeRelease.isSome = true)
    (hf : f.beforeRelease = none) :
    let earlier := op.passesUnder (.str n) fs w
    let last := op.reconcile (.str n) (earlier.2.failing f)
    (∀ r ∈ earlier.1, r.outcome = .fatal ∧ r.body = none) ∧
    earlier.2.cluster.tenants = w.cluster.tenants ∧
    last.1.outcome = .converged ∧ last.1.body = none ∧
    (∀ now, (op.publish now last.1).run last.2 = (.ok (), last.2)) ∧
    Departed op n kept m w.cluster last.2.cluster ∧
    (∀ gs, let later := op.passesUnder (.str n) gs last.2
      later.2.cluster.objects = last.2.cluster.objects ∧
      later.2.cluster.tenants = last.2.cluster.tenants ∧
      later.2.cluster.patches = last.2.cluster.patches) ∧
    ∀ (others : Table TenantKey StoredTenant) (kept' : StoredTenant),
      others.get? (.text n) = some kept' →
      kept'.body.get? "metadata" = kept.body.get? "metadata" →
      let earlier' := op.passesUnder (.str n) fs ⟨w.cluster.keeping others, w.journal⟩
      let last' := op.reconcile (.str n) (earlier'.2.failing f)
      earlier'.1 = earlier.1 ∧ last'.1 = last.1 ∧
      last'.2.cluster.objects = last.2.cluster.objects ∧
      last'.2.cluster.calls = last.2.cluster.calls ∧
      (last'.2.cluster.tenants.get? (.text n)).map (·.body.get? "metadata") =
        (last.2.cluster.tenants.get? (.text n)).map (·.body.get? "metadata") := by
  intro earlier last
  have hdelays := h.delays hfs
  have hends : Ends op n kept m fs f w.cluster last.1 last.2.cluster := h.ends hfs hf
  have hdeparted := hends.departed h
  have hbody : last.1.body = none := by
    rw [hends.result]
    rfl
  have hfatal : ∀ r ∈ earlier.1, r.outcome = .fatal ∧ r.body = none := by
    intro r hr
    rw [hdelays.results, List.mem_map] at hr
    obtain ⟨g, hg, rfl⟩ := hr
    obtain ⟨fault, hfault⟩ := Option.isSome_iff_exists.1 (hfs g hg)
    rw [Operator.departureResult, hfault]
    exact ⟨rfl, rfl⟩
  refine ⟨hfatal, hdelays.tenants, by rw [hends.result]; rfl, hbody, ?_, hdeparted,
    fun gs => (hdeparted.left h).passesUnder gs, ?_⟩
  · intro now
    obtain ⟨_, hrun⟩ := Operator.run_publish (PassResult.patch_of_body_eq_none hbody _ now) last.2
    exact hrun
  · intro others kept' hk hmd earlier' last'
    have h' : Leaving op (w.cluster.keeping others) n kept' m := h.congr hk hmd
    have hdelays' := Leaving.delays (w := ⟨w.cluster.keeping others, w.journal⟩) h' hfs
    have hends' := Leaving.ends (w := ⟨w.cluster.keeping others, w.journal⟩) h' hfs hf
    refine ⟨hdelays'.results.trans hdelays.results.symm, hends'.result.trans hends.result.symm,
      ?_, hends'.calls.trans hends.calls.symm, ?_⟩
    · have hobjects : (w.cluster.keeping others).objects = w.cluster.objects := rfl
      rw [hends'.objects, hends.objects]
      exact MemoryCluster.objects_emptied_congr hobjects _
    · rw [(hends'.departed h').tenant, hdeparted.tenant]
      by_cases hnone : op.foreign m = []
      · rw [if_pos hnone, if_pos hnone]
      · have hsome := isSome_of_metadataOf h.readable
        have hset := Json.get?_setMetadata_congr hmd hsome "finalizers" (.strings (op.foreign m))
        have hsome' : ((kept.body.setMetadata "finalizers" (.strings (op.foreign m))).get?
            "metadata").isSome = true := by
          rw [Json.get?_setMetadata_of_isSome hsome]
          rfl
        rw [if_neg hnone, if_neg hnone, Option.map_some, Option.map_some]
        exact congrArg some (Json.get?_setMetadata_congr hset hsome' _ _)

/-- A plain tenant is guarded and marked for deletion. One pass for it fails to take the guard off,
and the next one does not. -/
theorem departure_completes_plain :
    let op : Operator := {}
    let start : World MemoryCluster := ⟨.withPlainTenant "a", []⟩
    let guarded := (op.reconcile (.str "a") start).2.cluster
    let w : World MemoryCluster := ⟨((MemoryCluster.retire (.str "a")).run guarded).2, []⟩
    let cut : Failures := [((.replaceTenant, none), .api (some 409) none)]
    let earlier := op.passesUnder (.str "a") [cut] w
    let last := op.reconcile (.str "a") (earlier.2.failing [])
    (w.cluster.objects.get? (Names.spaceKey op.settings "a")).isSome = true ∧
    ∃ kept m, Leaving op w.cluster "a" kept m ∧ op.foreign m = [] ∧
      (∀ r ∈ earlier.1, r.outcome = .fatal) ∧ last.1.outcome = .converged ∧
      last.2.cluster.tenants.get? (.text "a") = none ∧
      last.2.cluster.objects.get? (Names.spaceKey op.settings "a") = none := by
  intro op start guarded w cut earlier last
  have hspace : (w.cluster.objects.get? (Names.spaceKey op.settings "a")).isSome = true := by
    decide +kernel
  have hkept : (w.cluster.tenants.get? (.text "a")).any (fun kept =>
      (metadataOf kept.body).toOption.any fun m => m.name == "a" &&
        (kept.body.metadatum "resourceVersion").isSome &&
        (kept.body.metadatum "deletionTimestamp").any (·.isText MemoryCluster.deletionTime) &&
        m.finalizers.contains op.guard && op.foreign m == []) = true := by
    decide +kernel
  obtain ⟨kept, hk, hchecks⟩ := (Option.any_eq_true _ _).1 hkept
  obtain ⟨m, hm, hchecks⟩ := (Option.any_eq_true _ _).1 hchecks
  simp only [Bool.and_eq_true, beq_iff_eq] at hchecks
  obtain ⟨⟨⟨⟨hname, hversion⟩, hstamp⟩, hguard⟩, hnone⟩ := hchecks
  have hread : metadataOf kept.body = .ok m := eq_ok_of_toOption hm
  have hstamped : ∃ time,
      kept.body.metadatum "deletionTimestamp" = some (.str time) ∧ time ≠ "" := by
    obtain ⟨j, hj, htext⟩ := (Option.any_eq_true _ _).1 hstamp
    cases j with
    | str time =>
      obtain rfl : time = MemoryCluster.deletionTime := by simpa [Json.isText] using htext
      exact ⟨_, hj, by decide⟩
    | _ => simp [Json.isText] at htext
  have h : Leaving op w.cluster "a" kept m := ⟨hk, hread, hname, hversion, hstamped, hguard⟩
  have hcut : ∀ f ∈ [cut], Failures.beforeRelease f = some (.api (some 409) none) := by
    simp [cut, Failures.beforeRelease, Failures.beforeClosing, Table.get?_cons]
  have hends : Failures.beforeRelease [] = none := rfl
  obtain ⟨hfatal, -, hlast, -, -, hdeparted, -⟩ :=
    departure_completes op (w := w) h (fun f hf => by rw [hcut f hf]; rfl) hends
  refine ⟨hspace, kept, m, h, hnone, fun r hr => (hfatal r hr).1, ?_, ?_, ?_⟩
  · rw [hlast]
  · rw [hdeparted.tenant, if_pos hnone]
  · rw [hdeparted.objects, if_pos ⟨hspace, .inl rfl⟩]

end MoodleTenancy
