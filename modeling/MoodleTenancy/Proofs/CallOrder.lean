import MoodleTenancy.Proofs.PassInMemory

/-!
# The order of calls in a pass

What a pass sets out to do is fixed by the cluster that it finds; it does that in order, up to the
first thing that fails.

* `Act`: a call, or a check of the pass's own, with the fault that it meets.
* `Act.made`, `Act.failure`: the calls up to the first act that fails, and the fault of that one.
* `MemoryCluster.supplyActs`, `Component.acts`: an object is read, and created if it is missing.
* `Operator.leavingActs`, `Operator.keepingActs`: what is done for a tenant that is being deleted,
  and for one that is not.
* `Operator.acts`: what a pass sets out to do.
-/

namespace MoodleTenancy
set_option autoImplicit false

/-! ## Acts -/

/-- A call or a check of the pass's own, and the fault that it meets, if any. -/
structure Act where
  call : Option Call
  fault : Option Fault

namespace Act

def check (fault : Fault) : Act := ⟨none, some fault⟩

/-- The calls made, up to the first act that fails. -/
def made : List Act → List Call
  | [] => []
  | a :: rest => a.call.toList ++ if a.fault.isSome then [] else made rest

/-- The fault of the first act that fails. -/
def failure : List Act → Option Fault
  | [] => none
  | a :: rest => a.fault.or (failure rest)

@[simp] theorem made_nil : made [] = [] := rfl

@[simp] theorem failure_nil : failure [] = none := rfl

theorem made_cons_ok (call : Option Call) (rest : List Act) :
    made (⟨call, none⟩ :: rest) = call.toList ++ made rest := rfl

theorem made_cons_fault (call : Option Call) (fault : Fault) (rest : List Act) :
    made (⟨call, some fault⟩ :: rest) = call.toList := by
  simp [made]

theorem failure_cons_ok (call : Option Call) (rest : List Act) :
    failure (⟨call, none⟩ :: rest) = failure rest := rfl

theorem failure_cons_fault (call : Option Call) (fault : Fault) (rest : List Act) :
    failure (⟨call, some fault⟩ :: rest) = some fault := rfl

theorem made_append (as bs : List Act) :
    made (as ++ bs) = made as ++ if (failure as).isSome then [] else made bs := by
  induction as with
  | nil => rfl
  | cons a rest ih =>
    obtain ⟨call, _ | fault⟩ := a
    · rw [List.cons_append, made_cons_ok, made_cons_ok, failure_cons_ok, ih, List.append_assoc]
    · rw [List.cons_append, made_cons_fault, made_cons_fault, failure_cons_fault]
      simp

theorem failure_append (as bs : List Act) :
    failure (as ++ bs) = (failure as).or (failure bs) := by
  induction as with
  | nil => rfl
  | cons a rest ih => rw [List.cons_append, failure, failure, ih, Option.or_assoc]

/-- What is made is a prefix of what is planned. -/
theorem made_prefix (acts : List Act) : made acts <+: acts.filterMap Act.call := by
  induction acts with
  | nil => exact List.prefix_rfl
  | cons a rest ih =>
    have hplan : (a :: rest).filterMap Act.call = a.call.toList ++ rest.filterMap Act.call := by
      obtain ⟨_ | call, fault⟩ := a <;> rfl
    rw [hplan, made, List.prefix_append_right_inj]
    split
    · exact List.nil_prefix
    · exact ih

theorem made_of_failure_eq_none {acts : List Act} (h : failure acts = none) :
    made acts = acts.filterMap Act.call := by
  induction acts with
  | nil => rfl
  | cons a rest ih =>
    obtain ⟨call, fault⟩ := a
    rw [failure, Option.or_eq_none_iff] at h
    obtain ⟨rfl, hrest⟩ := h
    rw [made_cons_ok, ih hrest]
    cases call <;> rfl

end Act

/-! ## What is done for an object, a component, a tenant -/

namespace MemoryCluster

def supplyActs (c : MemoryCluster) (k : ObjectKey) : List Act :=
  ⟨some (.reading k), c.failureOf (.reading k)⟩ ::
    if (c.objects.get? k).isSome then [] else [⟨some (.creating k), c.failureOf (.creating k)⟩]

theorem supplyActs_congr {c d : MemoryCluster} (hf : d.failures = c.failures) {k : ObjectKey}
    (ho : d.objects.get? k = c.objects.get? k) : d.supplyActs k = c.supplyActs k := by
  simp only [supplyActs, failureOf, hf, ho]

end MemoryCluster

def Component.acts (s : Settings) (t : Declaration) (ns : String) (c : MemoryCluster)
    (p : Component) : List Act :=
  match p.build s t (some ns) with
  | .error fault => [.check fault]
  | .ok child => c.supplyActs child.key

namespace Operator

/-- A tenant that is being deleted loses its namespace first and then the guard. -/
def leavingActs (op : Operator) (c : MemoryCluster) (body : Json) (m : Metadata) : List Act :=
  let space := Names.spaceKey op.settings m.name
  [⟨some (.deleting space), c.failureOf (.deleting space)⟩,
    ⟨some (.replacingTenant m.name), c.refusal m.name (op.releasedForm body m)⟩]

/-- A guarded tenant gets its namespace, or else the objects of the components that it needs. -/
def keepingActs (op : Operator) (c : MemoryCluster) (body : Json) : List Act :=
  match Declaration.parse body with
  | .error fault => [.check fault]
  | .ok t =>
    c.supplyActs (Names.spaceKey op.settings t.identifier) ++
      if (c.objects.get? (Names.spaceKey op.settings t.identifier)).isSome then
        (Component.all.filter (·.isNeeded t)).flatMap
          (Component.acts op.settings t (Names.space op.settings t.identifier) c)
      else []

def bodyActs (op : Operator) (c : MemoryCluster) (body : Json) : List Act :=
  match metadataOf body with
  | .error fault => [.check fault]
  | .ok m =>
    match m.isMarked, m.finalizers.contains op.guard with
    | true, true => op.leavingActs c body m
    | true, false => []
    | false, true => op.keepingActs c body
    | false, false =>
      ⟨some (.replacingTenant m.name), c.refusal m.name (op.guardedForm body m)⟩ ::
        op.keepingActs c ((op.guardedForm body m).withVersion c.version)

def acts (op : Operator) (c : MemoryCluster) (name : Json) : List Act :=
  match TenantKey.of name with
  | .error fault =>
    [⟨some (.readingTenant name), (c.failureOf (.readingTenant name)).or (some fault)⟩]
  | .ok key =>
    ⟨some (.readingTenant name), c.failureOf (.readingTenant name)⟩ ::
      match c.tenants.get? key with
      | none => []
      | some kept => op.bodyActs c kept.body

theorem acts_of_finds (op : Operator) {c : MemoryCluster} {name body : Json}
    (h : Finds c name body) :
    op.acts c name = ⟨some (.readingTenant name), none⟩ :: op.bodyActs c body := by
  obtain ⟨hf, key, kept, hk, ht, rfl⟩ := h
  simp only [acts, hk, ht, hf]

end Operator

/-! ## The calls that are made -/

/-- A job that ended with `fault`, if with any, has made the calls of the acts. -/
structure Follows (acts : List Act) (c : MemoryCluster) (fault : Option Fault)
    (d : MemoryCluster) : Prop where
  calls : d.calls = c.calls ++ Act.made acts
  fault : fault = Act.failure acts

namespace Follows

variable {as bs : List Act} {c d e : MemoryCluster} {fault : Option Fault}

theorem append (ha : Follows as c none d) (hb : Follows bs d fault e) :
    Follows (as ++ bs) c fault e where
  calls := by
    rw [Act.made_append, ← ha.fault, hb.calls, ha.calls, List.append_assoc]
    rfl
  fault := by rw [Act.failure_append, ← ha.fault, hb.fault, Option.none_or]

/-- The acts behind one that failed are of no account. -/
theorem append_failed {f : Fault} (ha : Follows as c (some f) d) (bs : List Act) :
    Follows (as ++ bs) c (some f) d where
  calls := by
    rw [Act.made_append, ← ha.fault, ha.calls]
    simp
  fault := by rw [Act.failure_append, ← ha.fault, Option.some_or]

theorem call {call : Call} (h : Follows as (c.noting call) fault d) :
    Follows (⟨some call, none⟩ :: as) c fault d where
  calls := by
    rw [Act.made_cons_ok, h.calls, MemoryCluster.noting_calls, List.append_assoc]
    rfl
  fault := by rw [Act.failure_cons_ok, h.fault]

theorem nil (c : MemoryCluster) : Follows [] c none c := ⟨by simp, rfl⟩

end Follows

def faultIn {α : Type} : Except Fault α → Option Fault
  | .error fault => some fault
  | .ok _ => none

theorem Supplies.follows {m : Manifest} {c d : MemoryCluster} {e : Except Fault Supplied}
    (h : Supplies m c e d) : Follows (c.supplyActs m.key) c (faultIn e) d := by
  cases h with
  | unread hf =>
    rw [MemoryCluster.supplyActs, hf]
    exact ⟨by rw [Act.made_cons_fault]; rfl, by rw [Act.failure_cons_fault]; rfl⟩
  | present hf hm =>
    rw [MemoryCluster.supplyActs, hf, hm]
    exact .call (.nil _)
  | uncreated hf hm hc =>
    rw [MemoryCluster.supplyActs, hf, hm, hc]
    exact .call ⟨by simp [Act.made_cons_fault], rfl⟩
  | created hf hm hc =>
    rw [MemoryCluster.supplyActs, hf, hm, hc]
    exact .call ⟨by simp [Act.made_cons_ok], rfl⟩

theorem Component.acts_congr {s : Settings} {t : Declaration} {ns : String} {c d : MemoryCluster}
    (hf : d.failures = c.failures) {p : Component}
    (ho : ∀ child, p.build s t (some ns) = .ok child →
      d.objects.get? child.key = c.objects.get? child.key) :
    p.acts s t ns d = p.acts s t ns c := by
  rw [acts, acts]
  cases hb : p.build s t (some ns) with
  | error fault => rfl
  | ok child => exact MemoryCluster.supplyActs_congr hf (ho child hb)

/-- What is done for the components behind one that was supplied. -/
theorem Follows.supplied {s : Settings} {t : Declaration} {ns : String} {p : Component}
    {rest : List Component} {child : Child} {x : Supplied} {c d e : MemoryCluster}
    {fault : Option Fault} (hp : p.isNeeded t = true) (hn : p ∉ rest)
    (hb : p.build s t (some ns) = .ok child) (h : Supplies child.manifest c (.ok x) d)
    (hr : Follows ((rest.filter (·.isNeeded t)).flatMap (Component.acts s t ns d)) d fault e) :
    Follows (((p :: rest).filter (·.isNeeded t)).flatMap (Component.acts s t ns c)) c fault e := by
  have hsame : (rest.filter (·.isNeeded t)).flatMap (Component.acts s t ns d) =
      (rest.filter (·.isNeeded t)).flatMap (Component.acts s t ns c) := by
    refine congrArg List.flatten (List.map_congr_left fun q hq => ?_)
    refine Component.acts_congr h.failures_eq ?_
    intro other ho
    refine h.get?_of_ne (Component.key_ne ?_ hb ho)
    rintro rfl
    exact hn ((List.mem_filter.1 hq).1)
  rw [List.filter_cons_of_pos (by simp [hp]), List.flatMap_cons, ← hsame]
  refine .append ?_ hr
  rw [Component.acts, hb]
  exact h.follows

/-- Components are supplied in order; each finds its object as it was before the others. -/
theorem SuppliesAll.follows {s : Settings} {t : Declaration} {ns : String} {ps : List Component}
    {c d : MemoryCluster} {r : Progress} (h : SuppliesAll s t ns ps c r d) (hps : ps.Nodup) :
    Follows ((ps.filter (·.isNeeded t)).flatMap (Component.acts s t ns c)) c r.fault d := by
  induction h with
  | done => exact .nil _
  | skipped hp h ih =>
    rw [List.filter_cons_of_neg (by simp [hp])]
    exact ih hps.of_cons
  | unbuilt hp hb =>
    rw [List.filter_cons_of_pos (by simp [hp]), List.flatMap_cons]
    refine .append_failed ?_ _
    rw [Component.acts, hb]
    exact ⟨by simp [Act.check, Act.made_cons_fault], rfl⟩
  | failed hp hb h =>
    rw [List.filter_cons_of_pos (by simp [hp]), List.flatMap_cons]
    refine .append_failed ?_ _
    rw [Component.acts, hb]
    exact h.follows
  | present hp hb h hr ih => exact .supplied hp (List.nodup_cons.1 hps).1 hb h (ih hps.of_cons)
  | created hp hb h hr ih => exact .supplied hp (List.nodup_cons.1 hps).1 hb h (ih hps.of_cons)

namespace Operator

theorem keepingActs_congr (op : Operator) {c d : MemoryCluster} (hf : d.failures = c.failures)
    (ho : d.objects = c.objects) (body : Json) : op.keepingActs d body = op.keepingActs c body := by
  have hacts : ∀ t ns p, Component.acts op.settings t ns d p =
      Component.acts op.settings t ns c p := fun _ _ _ =>
    Component.acts_congr hf fun _ _ => by rw [ho]
  rw [keepingActs, keepingActs]
  cases Declaration.parse body with
  | error fault => rfl
  | ok t => simp only [MemoryCluster.supplyActs, MemoryCluster.failureOf, hf, ho, funext (hacts _ _)]

end Operator

theorem PassResult.fault_supplied {r : PassResult} (p : Progress) (h : r.fault = none) :
    (r.supplied p).fault = p.fault := by
  rw [supplied]
  cases p.fault with
  | none => exact h
  | some fault => rfl

theorem Maintains.follows {op : Operator} {r r' : PassResult} {body : Json} {c d : MemoryCluster}
    (h : Maintains op r body c r' d) (hr : r.fault = none) :
    Follows (op.keepingActs c body) c r'.fault d := by
  rw [Operator.keepingActs]
  cases h with
  | invalid ht =>
    rw [ht]
    exact ⟨by simp [Act.check, Act.made_cons_fault], rfl⟩
  | unopened ht h =>
    rw [ht]
    exact .append_failed h.follows _
  | opened ht h =>
    have hs := h.isSome_of_created
    rw [key_space] at hs
    simp only [ht, hs, Bool.false_eq_true, if_false, List.append_nil]
    show Follows _ c r.fault d
    rw [hr]
    exact h.follows
  | @supplied t p c' _ ht h hp =>
    have hs := h.isSome_of_present
    have hacts : ∀ q, Component.acts op.settings t (Names.space op.settings t.identifier) c' q =
        Component.acts op.settings t (Names.space op.settings t.identifier) c q := fun _ =>
      Component.acts_congr h.failures_eq fun _ _ => by rw [h.objects_of_present]
    rw [key_space] at hs
    simp only [ht, hs, if_true]
    refine Follows.append h.follows ?_
    rw [← funext hacts, PassResult.fault_supplied p]
    · exact hp.follows Component.nodup_all
    · exact hr

theorem Replaces.follows {name : String} {sent : Json} {c d : MemoryCluster}
    {e : Except Fault Json} (h : Replaces name sent c e d) :
    Follows [⟨some (.replacingTenant name), c.refusal name sent⟩] c (faultIn e) d := by
  cases h with
  | refused h =>
    rw [h]
    exact ⟨by simp [Act.made_cons_fault], rfl⟩
  | taken h hc =>
    rw [h]
    exact ⟨by simp [Act.made_cons_ok], rfl⟩

theorem CleansUp.follows {op : Operator} {body : Json} {m : Metadata} {c d : MemoryCluster}
    {e : Except Fault Json} (h : CleansUp op body m c e d) :
    Follows (op.leavingActs c body m) c (faultIn e) d := by
  rw [Operator.leavingActs]
  cases h with
  | undeleted hf =>
    rw [hf]
    exact ⟨by simp [Act.made_cons_fault], rfl⟩
  | deleted hf h =>
    rw [hf]
    have hr := h.follows
    rw [MemoryCluster.refusal_emptied, MemoryCluster.refusal_noting] at hr
    refine .call ⟨?_, hr.fault⟩
    rw [hr.calls, MemoryCluster.emptied_calls]

/-- A pass makes the calls that it sets out to make, up to the first thing that fails, and ends with
the fault of that. -/
theorem Reconciles.follows {op : Operator} {name : Json} {c d : MemoryCluster} {r : PassResult}
    (h : Reconciles op name c r d) : Follows (op.acts c name) c r.fault d := by
  cases h with
  | unread hf =>
    rw [Operator.acts]
    cases TenantKey.of name with
    | error _ =>
      rw [hf]
      exact ⟨by simp [Act.made_cons_fault], rfl⟩
    | ok _ =>
      rw [hf]
      exact ⟨by simp [Act.made_cons_fault], rfl⟩
  | unnamed hf hk =>
    rw [Operator.acts, hk, hf]
    exact ⟨by simp [Act.made_cons_fault], rfl⟩
  | absent hf hk ht =>
    simp only [Operator.acts, hk, ht, hf]
    exact .call (.nil _)
  | unstaged hb hm =>
    rw [op.acts_of_finds hb, Operator.bodyActs, hm]
    exact .call ⟨by simp [Act.check, Act.made_cons_fault], rfl⟩
  | released hb hm hd hg =>
    simp only [op.acts_of_finds hb, Operator.bodyActs, hm, hd, hg]
    exact .call (.nil _)
  | uncleaned hb hm hd hg h =>
    simp only [op.acts_of_finds hb, Operator.bodyActs, hm, hd, hg]
    exact .call h.follows
  | cleaned hb hm hd hg h =>
    simp only [op.acts_of_finds hb, Operator.bodyActs, hm, hd, hg]
    exact .call h.follows
  | guarded hb hm hd hg h =>
    simp only [op.acts_of_finds hb, Operator.bodyActs, hm, hd, hg]
    refine .call ?_
    have hf := h.follows rfl
    rwa [op.keepingActs_congr rfl rfl] at hf
  | unguarded hb hm hd hg h =>
    simp only [op.acts_of_finds hb, Operator.bodyActs, hm, hd, hg]
    refine .call ?_
    exact .append_failed h.follows _
  | newlyGuarded hb hm hd hg h hr =>
    simp only [op.acts_of_finds hb, Operator.bodyActs, hm, hd, hg]
    refine .call ?_
    refine .append h.follows ?_
    have hf := hr.follows rfl
    rwa [op.keepingActs_congr h.failures_eq h.objects_eq, h.stored_eq] at hf

/-! ## What the order makes sure of -/

theorem Maintains.fatal_iff {op : Operator} {r r' : PassResult} {body : Json}
    {c d : MemoryCluster} (h : Maintains op r body c r' d) (ho : r.outcome = .converged)
    (hr : r.fault = none) : r'.outcome = .fatal ↔ r'.fault.isSome := by
  cases h with
  | invalid ht => simp [PassResult.aborted]
  | unopened ht h => simp [PassResult.aborted]
  | opened ht h => simp [PassResult.opened, hr]
  | @supplied t p _ _ ht h hp =>
    cases hf : p.fault with
    | none => simp [PassResult.supplied, hf, ho, hr]
    | some fault => simp [PassResult.supplied, hf, PassResult.aborted]

theorem Reconciles.fatal_iff {op : Operator} {name : Json} {c d : MemoryCluster} {r : PassResult}
    (h : Reconciles op name c r d) : r.outcome = .fatal ↔ r.fault.isSome := by
  cases h with
  | guarded hb hm hd hg h => exact h.fatal_iff rfl rfl
  | newlyGuarded hb hm hd hg h hr => exact hr.fatal_iff rfl rfl
  | _ => simp [PassResult.aborted, PassResult.start]

/-- A guard stays where it is, or else the pass has deleted the namespace before. -/
theorem Reconciles.guard_kept {op : Operator} {name : Json} {c d : MemoryCluster} {r : PassResult}
    (h : Reconciles op name c r d) {key : TenantKey} {kept : StoredTenant}
    (hk : c.tenants.get? key = some kept) (hg : IsGuarded op.guard kept.body) :
    (∃ later, d.tenants.get? key = some later ∧ IsGuarded op.guard later.body) ∨
      ∃ n, key = .text n ∧ c.failureOf (.deleting (Names.spaceKey op.settings n)) = none ∧
        Act.made (op.acts c name) =
          [.readingTenant name, .deleting (Names.spaceKey op.settings n), .replacingTenant n] := by
  have hfollows := h.follows
  have hsame : d.tenants.get? key = c.tenants.get? key →
      ∃ later, d.tenants.get? key = some later ∧ IsGuarded op.guard later.body := fun he =>
    ⟨kept, he.trans hk, hg⟩
  cases h with
  | uncleaned hb hm hd hgu h =>
    left
    apply hsame
    cases h with
    | undeleted hf => rfl
    | deleted hf h =>
      rw [h.tenants_of_error, MemoryCluster.emptied_tenants]
      rfl
  | @cleaned body stored m d hb hm hd hgu h =>
    cases h with
    | deleted hf h =>
      by_cases hn : key = .text m.name
      · right
        refine ⟨m.name, hn, hf, ?_⟩
        rw [Act.made_of_failure_eq_none hfollows.fault.symm]
        simp only [op.acts_of_finds hb, Operator.bodyActs, hm, hd, hgu]
        rfl
      · left
        apply hsame
        rw [h.get?_of_ne hn, MemoryCluster.emptied_tenants]
        rfl
  | guarded hb hm hd hgu h =>
    left
    apply hsame
    rw [h.tenants_eq]
    rfl
  | unguarded hb hm hd hgu h =>
    left
    apply hsame
    rw [h.tenants_of_error]
    rfl
  | @newlyGuarded body stored m r d e hb hm hd hgu h hr =>
    left
    by_cases hn : key = .text m.name
    · obtain rfl := h.stored_eq
      obtain ⟨current, -, hnew⟩ := h.get?_self (op.isReleased_guarded hm _)
      rw [hr.tenants_eq, hn]
      exact ⟨_, hnew, op.isGuarded_guarded hm _⟩
    · apply hsame
      rw [hr.tenants_eq, h.get?_of_ne hn]
      rfl
  | _ =>
    left
    apply hsame
    rfl

theorem Operator.parse_of_mem_keepingActs {op : Operator} {c : MemoryCluster} {body : Json}
    {call : Call} (h : call ∈ Act.made (op.keepingActs c body)) :
    ∃ t, Declaration.parse body = .ok t := by
  rw [keepingActs] at h
  cases ht : Declaration.parse body with
  | error fault => simp [ht, Act.check, Act.made_cons_fault] at h
  | ok t => exact ⟨t, rfl⟩

theorem Operator.verb_ne_create_of_leaving (op : Operator) {c : MemoryCluster} {name body : Json}
    {m : Metadata} (hb : Finds c name body) (hm : metadataOf body = .ok m)
    (hd : m.isMarked = true) (hg : m.finalizers.contains op.guard = true) {call : Call}
    (h : call ∈ Act.made (op.acts c name)) : call.verb ≠ .create := by
  have hplan := (Act.made_prefix _).subset h
  simp only [op.acts_of_finds hb, bodyActs, hm, hd, hg, leavingActs, List.filterMap_cons,
    List.filterMap_nil, List.mem_cons, List.not_mem_nil, or_false] at hplan
  obtain rfl | rfl | rfl := hplan <;> simp [Call.readingTenant, Call.deleting, Call.replacingTenant]

/-- Nothing is created but for a valid tenant that is not being deleted, and that either had the
guard or got it before in the same pass. -/
theorem Reconciles.guarded_of_create {op : Operator} {name : Json} {c d : MemoryCluster}
    {r : PassResult} (h : Reconciles op name c r d) {before after : List Call} {call : Call}
    (hmade : Act.made (op.acts c name) = before ++ call :: after) (hverb : call.verb = .create) :
    ∃ body t, Finds c name body ∧ Declaration.parse body = .ok t ∧ t.metadata.isMarked = false ∧
      (IsGuarded op.guard body ∨
        .replacingTenant t.metadata.name ∈ before ∧
          ∃ kept, d.tenants.get? (.text t.metadata.name) = some kept ∧
            IsGuarded op.guard kept.body) := by
  have hmem : call ∈ Act.made (op.acts c name) := by rw [hmade]; simp
  have hcalls := h.follows.calls
  cases h with
  | guarded hb hm hd hg h =>
    simp only [op.acts_of_finds hb, Operator.bodyActs, hm, hd, hg, Act.made_cons_ok,
      Option.toList_some, List.singleton_append, List.mem_cons] at hmem
    obtain rfl | hmem := hmem
    · simp [Call.readingTenant] at hverb
    · obtain ⟨t, ht⟩ := Operator.parse_of_mem_keepingActs hmem
      obtain rfl := Except.ok.inj (hm.symm.trans (metadataOf_of_parse ht))
      exact ⟨_, t, hb, ht, hd, .inl ((isGuarded_iff hm _).2 hg)⟩
  | @newlyGuarded body stored m _ _ _ hb hm hd hg h hr =>
    obtain rfl := h.stored_eq
    obtain ⟨current, -, hnew⟩ := h.get?_self (op.isReleased_guarded hm _)
    have hrefusal : c.refusal m.name (op.guardedForm body m) = none := h.refusal_eq
    simp only [op.acts_of_finds hb, Operator.bodyActs, hm, hd, hg, hrefusal, Act.made_cons_ok,
      Option.toList_some, List.singleton_append] at hmade
    -- The first two calls of the pass create nothing, so they come before.
    obtain ⟨-, hfirst⟩ | ⟨tail, rfl, htail⟩ := List.cons_eq_append_iff.1 hmade
    · rw [(List.cons.inj hfirst).1] at hverb
      simp [Call.readingTenant] at hverb
    obtain ⟨-, hsecond⟩ | ⟨rest, rfl, hrest⟩ := List.cons_eq_append_iff.1 htail
    · rw [(List.cons.inj hsecond).1] at hverb
      simp [Call.replacingTenant] at hverb
    obtain ⟨t, ht⟩ := Operator.parse_of_mem_keepingActs (by rw [hrest]; simp : call ∈ _)
    have hbody := op.parse_of_parse_guarded hm ht
    rw [← hr.tenants_eq] at hnew
    exact ⟨body, _, hb, hbody, hd, .inr ⟨by simp, _, hnew, op.isGuarded_guarded hm _⟩⟩
  | uncleaned hb hm hd hg h => exact absurd hverb (op.verb_ne_create_of_leaving hb hm hd hg hmem)
  | cleaned hb hm hd hg h => exact absurd hverb (op.verb_ne_create_of_leaving hb hm hd hg hmem)
  | unguarded hb hm hd hg h =>
    cases h with
    | refused h =>
      simp only [MemoryCluster.noting_calls, List.append_assoc, List.append_cancel_left_eq] at hcalls
      rw [← hcalls, List.singleton_append, List.mem_cons, List.mem_singleton] at hmem
      obtain rfl | rfl := hmem
      · simp [Call.readingTenant] at hverb
      · simp [Call.replacingTenant] at hverb
  | _ =>
    rw [MemoryCluster.noting_calls, List.append_cancel_left_eq] at hcalls
    rw [← hcalls, List.mem_singleton] at hmem
    subst hmem
    simp [Call.readingTenant] at hverb

/-- The order of the calls in a pass: those that it sets out to make, up to the first thing that
fails, whose fault it ends with. The guard comes off only behind a deletion of the namespace that
did not fail, and nothing is created before the guard is on. -/
theorem reconcile_in_order (op : Operator) (name : Json) (w : World MemoryCluster) :
    let c := w.cluster
    let r := (op.reconcile name w).1
    let d := (op.reconcile name w).2.cluster
    let made := Act.made (op.acts c name)
    (d.calls = c.calls ++ made ∧ made <+: (op.acts c name).filterMap Act.call ∧
      r.fault = Act.failure (op.acts c name) ∧ (r.outcome = .fatal ↔ r.fault.isSome) ∧
      (r.fault = none → made = (op.acts c name).filterMap Act.call)) ∧
    (∀ key kept, c.tenants.get? key = some kept → IsGuarded op.guard kept.body →
      (∃ later, d.tenants.get? key = some later ∧ IsGuarded op.guard later.body) ∨
        ∃ n, key = .text n ∧ c.failureOf (.deleting (Names.spaceKey op.settings n)) = none ∧
          made =
            [.readingTenant name, .deleting (Names.spaceKey op.settings n), .replacingTenant n]) ∧
    ∀ before call after, made = before ++ call :: after → call.verb = .create →
      ∃ body t, Finds c name body ∧ Declaration.parse body = .ok t ∧
        t.metadata.isMarked = false ∧
        (IsGuarded op.guard body ∨
          .replacingTenant t.metadata.name ∈ before ∧
            ∃ kept, d.tenants.get? (.text t.metadata.name) = some kept ∧
              IsGuarded op.guard kept.body) := by
  have h := reconcile_reconciles op name w
  have hf := h.follows
  refine ⟨⟨hf.calls, Act.made_prefix _, hf.fault, h.fatal_iff, ?_⟩, ?_, ?_⟩
  · intro hnone
    exact Act.made_of_failure_eq_none (hf.fault.symm.trans hnone)
  · intro key kept hk hg
    exact h.guard_kept hk hg
  · intro before call after hmade hverb
    exact h.guarded_of_create hmade hverb

theorem reconcile_in_order_plain :
    let op : Operator := {}
    let w : World MemoryCluster := ⟨.withPlainTenant "a", []⟩
    let w' := (op.reconcile (.str "a") w).2
    (∃ before call after, Act.made (op.acts w.cluster (.str "a")) = before ++ call :: after ∧
      call.verb = .create ∧ ∃ body t, Finds w.cluster (.str "a") body ∧
        Declaration.parse body = .ok t ∧ t.metadata.isMarked = false ∧
        (IsGuarded op.guard body ∨
          .replacingTenant t.metadata.name ∈ before ∧
            ∃ kept, w'.cluster.tenants.get? (.text t.metadata.name) = some kept ∧
              IsGuarded op.guard kept.body)) ∧
    ∃ key kept, w'.cluster.tenants.get? key = some kept ∧ IsGuarded op.guard kept.body ∧
      ((∃ later, (op.reconcile (.str "a") w').2.cluster.tenants.get? key = some later ∧
          IsGuarded op.guard later.body) ∨
        ∃ n, key = .text n ∧
          w'.cluster.failureOf (.deleting (Names.spaceKey op.settings n)) = none ∧
          Act.made (op.acts w'.cluster (.str "a")) =
            [.readingTenant (.str "a"), .deleting (Names.spaceKey op.settings n),
              .replacingTenant n]) := by
  intro op w w'
  have hcreate : (Act.made (op.acts w.cluster (.str "a"))).any (·.verb = .create) = true := by
    decide +kernel
  have hkept : (w'.cluster.tenants.get? (.text "a")).any (fun kept =>
      (metadataOf kept.body).toOption.any (·.finalizers.contains op.guard)) = true := by
    decide +kernel
  obtain ⟨call, hmem, hverb⟩ := List.any_eq_true.1 hcreate
  obtain ⟨before, after, hmade⟩ := List.append_of_mem hmem
  have hverb : call.verb = .create := of_decide_eq_true hverb
  obtain ⟨kept, hk, hg⟩ := (Option.any_eq_true _ _).1 hkept
  have hg : IsGuarded op.guard kept.body := isGuarded_of_any hg
  constructor
  · exact ⟨before, call, after, hmade, hverb,
      (reconcile_in_order op (.str "a") w).2.2 before call after hmade hverb⟩
  · exact ⟨.text "a", kept, hk, hg, (reconcile_in_order op (.str "a") w').2.1 _ kept hk hg⟩

end MoodleTenancy
