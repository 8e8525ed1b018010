import MoodleTenancy.Proofs.Accounts
import MoodleTenancy.Proofs.Convergence

/-!
# Recovery

Passes for a tenant may be cut short any number of times, each under failures of its own. Once
nothing fails any more, what comes of them is what passes without failures bring about from the
start, and together they report all of it once.

* `MemoryCluster.failing`: a cluster under other failures.
* `Operator.passesUnder`: passes in turn, each under failures of its own.
* `Operator.passesUntilConverged`: passes without failures, until one converges.
* `Resumes`: what one pass does and what it leaves to do, whatever fails.
* `Completes`: what passes come to once one of them converges.
* `failures_leave_no_trace`: passes under failures and then without, beside those without alone.
-/

namespace MoodleTenancy
set_option autoImplicit false

/-! ## Passes under failures -/

/-- The failures that calls are to meet. -/
abbrev Failures := Table (Verb × Option Kind) Fault

def MemoryCluster.failing (c : MemoryCluster) (f : Failures) : MemoryCluster :=
  { c with failures := f }

def World.failing (w : World MemoryCluster) (f : Failures) : World MemoryCluster :=
  { w with cluster := w.cluster.failing f }

namespace Operator

def passesUnder (op : Operator) (name : Json) :
    List Failures → World MemoryCluster → List PassResult × World MemoryCluster
  | [], w => ([], w)
  | f :: rest, w =>
    let out := op.reconcile name (w.failing f)
    let later := op.passesUnder name rest out.2
    (out.1 :: later.1, later.2)

/-- Passes without failures, up to the first that converges, `bound` at most. -/
def passesUntilConverged (op : Operator) (name : Json) :
    (bound : Nat) → World MemoryCluster → List PassResult × World MemoryCluster
  | 0, w => ([], w)
  | bound + 1, w =>
    let out := op.reconcile name (w.failing [])
    if out.1.outcome = .converged then ([out.1], out.2)
    else
      let later := op.passesUntilConverged name bound out.2
      (out.1 :: later.1, later.2)

/-- Passes under failures, and then two without, or one if that converges. -/
def recover (op : Operator) (name : Json) (fs : List Failures) (w : World MemoryCluster) :
    List PassResult × World MemoryCluster :=
  let cut := op.passesUnder name fs w
  let last := op.passesUntilConverged name 2 cut.2
  (cut.1 ++ last.1, last.2)

end Operator

/-- What is taken under failures is taken without them. -/
theorem Replaces.unfailing {name : String} {sent stored : Json} {c d : MemoryCluster}
    (h : Replaces name sent c (.ok stored) d) :
    Replaces name sent (c.failing []) (.ok stored) (d.failing []) := by
  cases h with
  | @taken current h hc =>
    have hrefusal : (c.failing []).refusal name sent = none := by
      cases hf : c.failureOf (.replacingTenant name) with
      | some fault => simp [MemoryCluster.refusal, hf] at h
      | none =>
        simp only [MemoryCluster.refusal, hf, hc] at h
        simp only [MemoryCluster.refusal, MemoryCluster.failureOf, MemoryCluster.failing,
          Table.get?_nil, hc]
        exact h
    exact .taken hrefusal hc

/-! ## The guarded form of a body -/

namespace Operator

/-- The body as a pass leaves it but for its version: with the guard. -/
def guardedBody (op : Operator) (body : Json) (m : Metadata) : Json :=
  if m.finalizers.contains op.guard then body else op.guardedForm body m

theorem guardedBody_of_contains {op : Operator} {m : Metadata}
    (h : m.finalizers.contains op.guard = true) (body : Json) : op.guardedBody body m = body :=
  if_pos h

theorem guardedBody_of_not_contains {op : Operator} {m : Metadata}
    (h : m.finalizers.contains op.guard = false) (body : Json) :
    op.guardedBody body m = op.guardedForm body m := by
  rw [guardedBody, h]
  rfl

end Operator

theorem Json.withVersion_withVersion (body u v : Json) :
    (body.withVersion u).withVersion v = body.withVersion v := by
  cases body with
  | obj fields =>
    simp only [withVersion, setMetadata, get?_obj, set_obj, Fields.get?_set_self, ofOption,
      Option.getD_some, Fields.set_set]
    cases (Fields.get? "metadata" fields).getD null <;> simp [set, Fields.set_set]
  | _ => rfl

theorem Json.withVersion_of_metadatum {body v : Json}
    (h : body.metadatum "resourceVersion" = some v) : body.withVersion v = body := by
  obtain ⟨fields, md, rfl, hmd, hv⟩ := metadatum_eq_some h
  rw [withVersion, setMetadata_obj hmd, set_obj, Fields.set_of_get? hv, Fields.set_of_get? hmd]

/-! ## One pass -/

/-- A pass of a tenant that could be looked after if nothing failed accounts for itself and leaves
such a tenant behind. Only the guard and the version of the tenant may be others, and the guard is
on if nothing failed. -/
structure Resumes (op : Operator) (n : String) (body : Json) (t : Declaration) (c : MemoryCluster)
    (r : PassResult) (d : MemoryCluster) (body' : Json) (t' : Declaration) : Prop where
  accounts : Accounts op t c r d
  tended : Tended (d.failing []) n body' t'
  renewed : ∃ fs v, t' = t.renewed fs v
  sameGuarded : ∀ v, (op.guardedBody body' t'.metadata).withVersion v =
    (op.guardedBody body t.metadata).withVersion v
  guarded : r.outcome ≠ .fatal → t'.metadata.finalizers.contains op.guard = true

namespace Resumes

variable {op : Operator} {n : String} {body : Json} {t : Declaration} {c d : MemoryCluster}
  {r : PassResult}

/-- A pass that fails before it changes anything. -/
theorem idle (h : Tended (c.failing []) n body t) (ho : d.objects = c.objects)
    (ht : d.tenants = c.tenants) (hr : r.outcome = .fatal) (hn : r.namespaceCreated = false)
    (hc : r.created = []) : Resumes op n body t c r d body t where
  accounts := .nothing hr hn hc ho
  tended := by
    obtain ⟨-, hstored, hvalid, hnamed, hunmarked, howned, hversioned⟩ := h
    exact ⟨rfl, by rwa [show (d.failing []).tenants = c.tenants from ht], hvalid, hnamed, hunmarked,
      howned, hversioned⟩
  renewed := ⟨t.metadata.finalizers, t.metadata.resourceVersion, rfl⟩
  sameGuarded _ := rfl
  guarded hne := absurd hr hne

end Resumes

theorem Tended.resumes {op : Operator} {n : String} {body : Json} {t : Declaration}
    {c d : MemoryCluster} {r : PassResult} (h : Tended (c.failing []) n body t)
    (hr : Reconciles op (.str n) c r d) : ∃ body' t', Resumes op n body t c r d body' t' := by
  obtain ⟨kept, hkept, rfl⟩ := h.stored
  cases hr.pursues hkept (metadataOf_of_parse h.valid) with
  | unread hf => exact ⟨kept.body, t, .idle h rfl rfl rfl rfl rfl⟩
  | released hf hd => exact absurd (hd.symm.trans h.unmarked) (by simp)
  | uncleaned hf hd => exact absurd (hd.symm.trans h.unmarked) (by simp)
  | cleaned hf hd => exact absurd (hd.symm.trans h.unmarked) (by simp)
  | guarded hf hd hg hmt =>
    obtain ⟨-, hstored, hvalid, hnamed, hunmarked, howned, hversioned⟩ := h
    have htended : Tended (d.failing []) n kept.body t :=
      ⟨rfl, by rwa [show (d.failing []).tenants = c.tenants from hmt.tenants_eq], hvalid, hnamed,
        hunmarked, howned, hversioned⟩
    exact ⟨kept.body, t, (hmt.accounts hvalid).of_objects rfl, htended,
      ⟨t.metadata.finalizers, t.metadata.resourceVersion, rfl⟩, fun _ => rfl, fun _ => hg⟩
  | unguarded hf hd hg hrep =>
    exact ⟨kept.body, t, .idle h hrep.objects_eq hrep.tenants_of_error rfl rfl rfl⟩
  | @newlyGuarded stored r d' d hf hd hg hrep hmt =>
    rw [h.named] at hrep
    have hguarded := (h.noting (.readingTenant (.str n))).guarded hrep.unfailing
    have hon : (t.metadata.finalizers ++ [op.guard]).contains op.guard = true := by simp
    have haccounts : Accounts op t c r d :=
      Accounts.of_renewed ((hmt.accounts hguarded.valid).of_objects hrep.objects_eq)
    have hsame : ∀ v, (op.guardedBody stored (t.renewed (t.metadata.finalizers ++ [op.guard])
        (toString c.nextVersion)).metadata).withVersion v =
          (op.guardedBody kept.body t.metadata).withVersion v := by
      intro v
      rw [Operator.guardedBody_of_contains hon, Operator.guardedBody_of_not_contains hg,
        hrep.stored_eq, Json.withVersion_withVersion]
    obtain ⟨-, hstored, hvalid, hnamed, hunmarked, howned, hversioned⟩ := hguarded
    have htended : Tended (d.failing []) n stored _ :=
      ⟨rfl, by rwa [show (d.failing []).tenants = d'.tenants from hmt.tenants_eq], hvalid, hnamed,
        hunmarked, howned, hversioned⟩
    exact ⟨stored, _, haccounts, htended, ⟨_, _, rfl⟩, hsame, fun _ => hon⟩

/-! ## What is missing after a pass -/

theorem MemoryCluster.isSome_of_append {c d : MemoryCluster} {added : Table ObjectKey Manifest}
    (h : d.objects = c.objects ++ added) {k : ObjectKey} (hk : (c.objects.get? k).isSome = true) :
    (d.objects.get? k).isSome = true := by
  obtain ⟨m, hm⟩ := Option.isSome_iff_exists.1 hk
  rw [h, Table.get?_append, hm]
  rfl

theorem Component.keyFor_ne_spaceKey (s : Settings) (t : Declaration) (p : Component) :
    Names.spaceKey s t.identifier ≠ p.keyFor s t := by
  intro h
  rw [Names.spaceKey, keyFor, ObjectKey.mk.injEq] at h
  exact p.kind_ne_namespaceKind h.1.symm

section Missing

variable {s : Settings} {t : Declaration} {c d : MemoryCluster}

theorem MemoryCluster.missing_of_opened
    (h : d.objects = c.objects ++ [(Child.space s t).manifest.entry]) (ps : List Component) :
    d.missing s t ps = c.missing s t ps := by
  refine missing_congr fun p _ => ?_
  have hother : Table.get? (p.keyFor s t) [(Child.space s t).manifest.entry] = none := by
    rw [Manifest.entry, Table.get?_cons, key_space, if_neg (Component.keyFor_ne_spaceKey s t p),
      Table.get?_nil]
  rw [h, Table.get?_append, hother, Option.or_none]

theorem Table.get?_eq_none_iff {κ ν : Type} [DecidableEq κ] {k : κ} {u : Table κ ν} :
    u.get? k = none ↔ k ∉ u.keys := by
  induction u with
  | nil => simp [keys]
  | cons e rest ih =>
    obtain ⟨l, v⟩ := e
    rw [get?_cons, keys, List.map_cons, List.mem_cons, ← keys]
    by_cases hl : l = k
    · simp [hl]
    · rw [if_neg hl, ih]
      simp [Ne.symm hl]

/-- What was missing and was not made is missing still. -/
theorem Makes.missing_eq {made rest : List Component} {created : List String}
    (h : Makes s t c.objects d.objects made created)
    (hm : c.missing s t Component.all = made ++ rest) : d.missing s t Component.all = rest := by
  obtain ⟨-, ms, hms, hobjects⟩ := h
  have hkeys := keys_of_manifests hms
  have hstill : ∀ p, (d.objects.get? (p.keyFor s t)).isNone =
      ((c.objects.get? (p.keyFor s t)).isNone && decide (p ∉ made)) := by
    intro p
    have hmade : Table.get? (p.keyFor s t) (ms.map Manifest.entry) = none ↔ p ∉ made := by
      rw [Table.get?_eq_none_iff, hkeys, List.mem_map]
      constructor
      · intro hfree hp
        exact hfree ⟨p, hp, rfl⟩
      · rintro hp ⟨q, hq, hkey⟩
        rw [Component.keyFor_inj hkey] at hq
        exact hp hq
    rw [Bool.eq_iff_iff, Bool.and_eq_true, decide_eq_true_iff, ← hmade, hobjects, Table.get?_append]
    simp
  have hfilter : d.missing s t Component.all =
      (c.missing s t Component.all).filter fun p => decide (p ∉ made) := by
    rw [MemoryCluster.missing, MemoryCluster.missing, List.filter_filter]
    refine List.filter_congr fun p _ => ?_
    rw [hstill, ← Bool.and_assoc, Bool.and_comm]
  have hnodup : (made ++ rest).Nodup := by
    rw [← hm]
    exact Component.nodup_all.sublist List.filter_sublist
  obtain ⟨-, -, hdisjoint⟩ := List.nodup_append.1 hnodup
  rw [hfilter, hm, List.filter_append]
  have hnone : made.filter (fun p => decide (p ∉ made)) = [] := by
    rw [List.filter_eq_nil_iff]
    intro p hp
    simp [hp]
  have hall : rest.filter (fun p => decide (p ∉ made)) = rest := by
    rw [List.filter_eq_self]
    intro p hp
    exact decide_eq_true fun hin => hdisjoint p hin p hp rfl
  rw [hnone, hall, List.nil_append]

end Missing

/-! ## Passes until one converges -/

/-- What passes for a tenant come to once one of them converges: the namespace and the components
that were missing are there, each reported once, and the tenant has the guard. -/
structure Completes (op : Operator) (n : String) (body : Json) (t : Declaration) (c : MemoryCluster)
    (rs : List PassResult) (d : MemoryCluster) : Prop where
  last : rs.getLast?.map PassResult.outcome = some .converged
  objects : Makes op.settings t
    (c.objects ++ if (c.objects.get? (Names.spaceKey op.settings t.identifier)).isSome then []
      else [(Child.space op.settings t).manifest.entry])
    d.objects (c.missing op.settings t Component.all) (rs.flatMap PassResult.created)
  spaces : rs.countP (·.namespaceCreated) =
    if (c.objects.get? (Names.spaceKey op.settings t.identifier)).isSome then 0 else 1
  tenant : ∃ kept v, d.tenants.get? (.text n) = some kept ∧
    kept.body = (op.guardedBody body t.metadata).withVersion v

namespace Completes

variable {op : Operator} {n : String} {body body' : Json} {t t' : Declaration}
  {c d e : MemoryCluster} {r : PassResult} {rs : List PassResult}

/-- A pass that converges completes what there is to do. -/
theorem of_converged (h : Resumes op n body t c r d body' t') (hr : r.outcome = .converged) :
    Completes op n body t c [r] d := by
  have hguarded := h.guarded (by simp [hr])
  obtain ⟨kept, hkept, rfl⟩ := h.tended.stored
  obtain ⟨v, hv⟩ := Option.isSome_iff_exists.1 h.tended.versioned
  have htenant : kept.body = (op.guardedBody body t.metadata).withVersion v := by
    rw [← h.sameGuarded v, Operator.guardedBody_of_contains hguarded,
      Json.withVersion_of_metadatum hv]
  cases h.accounts with
  | nothing hf => exact absurd (hf.symm.trans hr) (by simp)
  | opened hf => exact absurd (hf.symm.trans hr) (by simp)
  | @supplied made rest hf hn hs hm ho =>
    obtain ⟨-, rfl⟩ | hf := hf
    · rw [List.append_nil] at hm
      refine ⟨by simp [hr], ?_, by simp [hn, hs], kept, v, hkept, htenant⟩
      rw [if_pos hs, List.append_nil, hm, List.flatMap_singleton]
      exact ho
    · exact absurd (hf.symm.trans hr) (by simp)

theorem cons (h : Resumes op n body t c r d body' t') (hrest : Completes op n body' t' d rs e) :
    Completes op n body t c (r :: rs) e := by
  obtain ⟨haccounts, -, ⟨fs, v, rfl⟩, hsame, -⟩ := h
  obtain ⟨hlast, hobjects, hspaces, kept, u, hkept, hbody⟩ := hrest
  have hmakes : Makes op.settings t
      (d.objects ++ if (d.objects.get? (Names.spaceKey op.settings t.identifier)).isSome then []
        else [(Child.space op.settings t).manifest.entry])
      e.objects (d.missing op.settings t Component.all) (rs.flatMap PassResult.created) :=
    Makes.of_renewed _ _ _ _ hobjects
  have hcount : rs.countP (·.namespaceCreated) =
      if (d.objects.get? (Names.spaceKey op.settings t.identifier)).isSome then 0 else 1 := hspaces
  have hlast' : (r :: rs).getLast?.map PassResult.outcome = some .converged := by
    cases rs with
    | nil => simp at hlast
    | cons r' rs' => rw [List.getLast?_cons_cons, hlast]
  have htenant : kept.body = (op.guardedBody body t.metadata).withVersion u := by
    rw [hbody, hsame]
  refine ⟨hlast', ?_, ?_, kept, u, hkept, htenant⟩
  · rw [List.flatMap_cons]
    cases haccounts with
    | nothing hf hn hc ho =>
      -- All that was to be done is left to those behind.
      have hmissing : d.missing op.settings t Component.all =
          c.missing op.settings t Component.all :=
        MemoryCluster.missing_congr fun _ _ => by rw [ho]
      rw [hmissing, ho] at hmakes
      rw [hc, List.nil_append]
      exact hmakes
    | opened hr hn hc hs ho =>
      have hthere : (d.objects.get? (Names.spaceKey op.settings t.identifier)).isSome = true := by
        rw [ho, Table.get?_append, hs, Manifest.entry, key_space, Table.get?_cons, if_pos rfl]
        rfl
      rw [if_pos hthere, List.append_nil, MemoryCluster.missing_of_opened ho, ho] at hmakes
      rw [hs, hc, List.nil_append]
      exact hmakes
    | @supplied made rest hf hn hs hm ho =>
      -- What this pass made comes before what they make, in the order in which it was missing.
      obtain ⟨added, hadded⟩ := ho.appends
      rw [if_pos (MemoryCluster.isSome_of_append hadded hs), List.append_nil, ho.missing_eq hm]
        at hmakes
      rw [if_pos hs, List.append_nil, hm]
      exact ho.append hmakes
  · rw [List.countP_cons, hcount]
    cases haccounts with
    | nothing hf hn hc ho => simp [hn, ho]
    | opened hr hn hc hs ho => simp [hn, hs, ho, Table.get?_append, Manifest.entry, Table.get?_cons]
    | @supplied made rest hf hn hs hm ho =>
      obtain ⟨added, hadded⟩ := ho.appends
      simp [hn, hs, MemoryCluster.isSome_of_append hadded hs]

theorem of_failing {f : Failures} (h : Completes op n body t (c.failing f) rs d) :
    Completes op n body t c rs d :=
  ⟨h.last, h.objects, h.spaces, h.tenant⟩

end Completes

/-- Without failures, the second pass converges if the first one does not. -/
theorem Tended.completes_unfailing (op : Operator) {n : String} {body : Json} {t : Declaration}
    {w : World MemoryCluster} (h : Tended (w.cluster.failing []) n body t) :
    Completes op n body t w.cluster (op.passesUntilConverged (.str n) 2 w).1
      (op.passesUntilConverged (.str n) 2 w).2.cluster := by
  refine Completes.of_failing (f := []) ?_
  let first := op.reconcile (.str n) (w.failing [])
  let second := op.reconcile (.str n) (first.2.failing [])
  have hfirst : Reconciles op (.str n) (w.cluster.failing []) first.1 first.2.cluster :=
    reconcile_reconciles op (.str n) (w.failing [])
  have hsecond : Reconciles op (.str n) (first.2.cluster.failing []) second.1 second.2.cluster :=
    reconcile_reconciles op (.str n) (first.2.failing [])
  obtain ⟨_, _, _, -, a₁⟩ := h.pass hfirst
  obtain ⟨body₁, t₁, h₁⟩ := Tended.resumes (c := w.cluster.failing []) h hfirst
  rw [Operator.passesUntilConverged]
  by_cases hr : first.1.outcome = .converged
  · rw [if_pos hr]
    exact .of_converged h₁ hr
  · obtain ⟨_, _, _, -, a₂⟩ := h₁.tended.pass hsecond
    obtain ⟨body₂, t₂, h₂⟩ := Tended.resumes (c := first.2.cluster.failing []) h₁.tended hsecond
    have hspace : (first.2.cluster.objects.get?
        (Names.spaceKey op.settings t₁.identifier)).isSome = true := by
      obtain ⟨_, _, rfl⟩ := h₁.renewed
      exact a₁.space
    have hlast : second.1.outcome = .converged := by
      rw [a₂.outcome]
      exact if_pos hspace
    rw [if_neg hr, Operator.passesUntilConverged, if_pos hlast]
    exact .cons h₁ (.of_failing (.of_converged h₂ hlast))

theorem Tended.completes (op : Operator) {n : String} (fs : List Failures) {body : Json}
    {t : Declaration} {w : World MemoryCluster} (h : Tended (w.cluster.failing []) n body t) :
    Completes op n body t w.cluster (op.recover (.str n) fs w).1
      (op.recover (.str n) fs w).2.cluster := by
  induction fs generalizing body t w with
  | nil => exact h.completes_unfailing op
  | cons f rest ih =>
    have hr : Reconciles op (.str n) (w.cluster.failing f) _ _ :=
      reconcile_reconciles op (.str n) (w.failing f)
    obtain ⟨body', t', hresumes⟩ := Tended.resumes (c := w.cluster.failing f) h hr
    exact .of_failing (.cons hresumes (ih hresumes.tended))

/-! ## Reports -/

theorem Component.label_inj {t : Declaration} {p q : Component} (h : p.label t = q.label t) :
    p = q := by
  have hkind : ∀ r : Component,
      (r.label t).toList.takeWhile (· ≠ '/') = r.kind.name.toList := by
    intro r
    have hplain : r.kind.name.toList.all (· ≠ '/') = true := by
      cases r.kind <;> decide
    rw [label, String.toList_append, String.toList_append, List.append_assoc,
      List.takeWhile_append_of_pos (List.all_eq_true.1 hplain)]
    simp
  have hname : p.kind.name = q.kind.name := by
    rw [← String.toList_inj, ← hkind p, h, hkind q]
  exact kind_inj (Kind.name_inj hname)

theorem Operator.length_passesUnder (op : Operator) (name : Json) (fs : List Failures)
    (w : World MemoryCluster) : (op.passesUnder name fs w).1.length = fs.length := by
  induction fs generalizing w with
  | nil => rfl
  | cons f rest ih => rw [passesUnder, List.length_cons, List.length_cons, ih]

theorem Operator.length_passesUntilConverged_le (op : Operator) (name : Json) (bound : Nat)
    (w : World MemoryCluster) : (op.passesUntilConverged name bound w).1.length ≤ bound := by
  induction bound generalizing w with
  | zero => simp [passesUntilConverged]
  | succ bound ih =>
    rw [passesUntilConverged]
    split
    · simp
    · exact Nat.succ_le_succ (ih _)

/-- Whatever failed in whatever passes, once nothing fails two passes at most bring the tenant to
where it would be if nothing had failed, up to its version. What was missing at the start is
reported once by all passes together, and so is the namespace if there was none. -/
theorem failures_leave_no_trace (op : Operator) {n : String} (fs : List Failures) {body : Json}
    {t : Declaration} {w : World MemoryCluster} (h : Tended (w.cluster.failing []) n body t) :
    let ended := op.recover (.str n) fs w
    let alone := op.recover (.str n) [] w
    let made := ended.1.flatMap PassResult.created
    ended.1.length ≤ fs.length + 2 ∧
    ended.1.getLast?.map PassResult.outcome = some .converged ∧
    alone.1.getLast?.map PassResult.outcome = some .converged ∧
    ended.2.cluster.objects = alone.2.cluster.objects ∧
    (∃ kept other, ended.2.cluster.tenants.get? (.text n) = some kept ∧
      alone.2.cluster.tenants.get? (.text n) = some other ∧
      kept.body.metadatum "finalizers" = other.body.metadatum "finalizers" ∧
      ∀ v, kept.body.withVersion v = other.body.withVersion v) ∧
    made = (w.cluster.missing op.settings t Component.all).map (Component.label t) ∧ made.Nodup ∧
    ended.1.countP (·.namespaceCreated) =
      if (w.cluster.objects.get? (Names.spaceKey op.settings n)).isSome then 0 else 1 := by
  intro ended alone made
  obtain ⟨hlast, hobjects, hspaces, kept, u, hkept, hbody⟩ := h.completes op fs
  obtain ⟨hlast', hobjects', -, other, v, hother, hbody'⟩ := h.completes op []
  have hlength : ended.1.length ≤ fs.length + 2 := by
    rw [show ended.1 = _ ++ _ from rfl, List.length_append, op.length_passesUnder]
    exact Nat.add_le_add_left (op.length_passesUntilConverged_le _ _ _) _
  have hnodup : made.Nodup := by
    rw [show made = _ from hobjects.reports]
    have hmissing : (w.cluster.missing op.settings t Component.all).Nodup :=
      Component.nodup_all.sublist List.filter_sublist
    exact List.Pairwise.map _ (fun p q hpq hlabel => hpq (Component.label_inj hlabel)) hmissing
  have hspace : n = t.identifier := by rw [Declaration.identifier, h.named]
  refine ⟨hlength, hlast, hlast', hobjects'.unique hobjects, ⟨kept, other, hkept, hother, ?_, ?_⟩,
    hobjects.reports, hnodup, ?_⟩
  · rw [hbody, hbody', Json.withVersion, Json.withVersion, metadatum_setMetadata_ne (by decide),
      metadatum_setMetadata_ne (by decide)]
  · intro x
    rw [hbody, hbody', Json.withVersion_withVersion, Json.withVersion_withVersion]
  · rw [hspace]
    exact hspaces

theorem Tended.of_any {c : MemoryCluster} {n : String} (hc : c.failures = [])
    (h : (c.tenants.get? (.text n)).any (fun kept =>
      (kept.body.metadatum "resourceVersion").isSome &&
        (Declaration.parse kept.body).toOption.any fun t =>
          t.metadata.name == n && !t.metadata.isMarked && t.metadata.uid.isSome) = true) :
    ∃ body t, Tended c n body t := by
  obtain ⟨kept, hk, hchecks⟩ := (Option.any_eq_true _ _).1 h
  rw [Bool.and_eq_true, Option.any_eq_true] at hchecks
  obtain ⟨hversion, t, ht, hchecks⟩ := hchecks
  simp only [Bool.and_eq_true, beq_iff_eq, Bool.not_eq_true'] at hchecks
  obtain ⟨⟨hname, hmarked⟩, huid⟩ := hchecks
  exact ⟨kept.body, t, hc, ⟨kept, hk, rfl⟩, eq_ok_of_toOption ht, hname, hmarked, huid, hversion⟩

theorem failures_leave_no_trace_plain :
    let op : Operator := {}
    let w : World MemoryCluster := ⟨.withPlainTenant "a", []⟩
    let fs : List Failures := [[((.create, some .namespaceKind), .api (some 500) none)], [],
      [((.create, some .deployment), .api (some 500) none)]]
    let ended := op.recover (.str "a") fs w
    ended.1.map PassResult.outcome = [.fatal, .requeue, .fatal, .converged] ∧
    ∃ body t, Tended (w.cluster.failing []) "a" body t ∧
      ended.2.cluster.objects = (op.recover (.str "a") [] w).2.cluster.objects ∧
      ended.1.countP (·.namespaceCreated) = 1 := by
  intro op w fs ended
  have houtcomes : ended.1.map PassResult.outcome = [.fatal, .requeue, .fatal, .converged] := by
    decide +kernel
  obtain ⟨body, t, h⟩ : ∃ body t, Tended (w.cluster.failing []) "a" body t :=
    Tended.of_any rfl (by decide +kernel)
  have hnone : (w.cluster.objects.get? (Names.spaceKey op.settings "a")).isSome = false := by
    decide +kernel
  obtain ⟨-, -, -, hobjects, -, -, -, hspaces⟩ := failures_leave_no_trace op fs (w := w) h
  have hsame : ended.2.cluster.objects = (op.recover (.str "a") [] w).2.cluster.objects := by
    rw [hobjects]
  have honce : ended.1.countP (·.namespaceCreated) = 1 := by
    rw [hspaces, hnone]
    rfl
  exact ⟨houtcomes, body, t, h, hsame, honce⟩

end MoodleTenancy
