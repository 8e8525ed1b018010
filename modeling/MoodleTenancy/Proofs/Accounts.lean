import MoodleTenancy.Proofs.Additions
import MoodleTenancy.Proofs.CallOrder

/-!
# Accounts of passes

A pass for a tenant that is not being deleted reports all that it made and nothing else, also when
it is cut short. What it makes are the first of the objects that were missing.

* `Component.label`, `Component.manifest?`: how the object of a component is reported, and the
  object.
* `MemoryCluster.missing`: the components of a tenant that have no objects.
* `Makes`: the objects of some components come in at the end of a table, and are reported.
* `SuppliesAll.makes`: the components made are the first of those that were missing.
* `Accounts`: the three ways in which a pass for a valid tenant can account for itself.
* `reconcile_accounts`: whole passes.
-/

namespace MoodleTenancy
set_option autoImplicit false

/-! ## Entries at the end of a table -/

namespace Table

variable {κ ν : Type} [DecidableEq κ]

theorem insert_of_get?_eq_none {k : κ} {t : Table κ ν} (h : get? k t = none) (v : ν) :
    insert k v t = t ++ [(k, v)] := by
  induction t with
  | nil => rfl
  | cons e rest ih =>
    obtain ⟨l, w⟩ := e
    rw [get?_cons] at h
    by_cases hl : l = k
    · simp [hl] at h
    · rw [if_neg hl] at h
      rw [insert, if_neg hl, ih h, List.cons_append]

theorem get?_append (k : κ) (t u : Table κ ν) : get? k (t ++ u) = (get? k t).or (get? k u) := by
  induction t with
  | nil => rfl
  | cons e rest ih =>
    obtain ⟨l, w⟩ := e
    rw [List.cons_append, get?_cons, get?_cons, ih]
    split <;> rfl

end Table

def Manifest.entry (m : Manifest) : ObjectKey × Manifest := (m.key, m)

theorem MemoryCluster.objects_holding {c : MemoryCluster} {m : Manifest}
    (h : c.objects.get? m.key = none) : (c.holding m).objects = c.objects ++ [m.entry] := by
  rw [holding_objects, Table.insert_of_get?_eq_none h, Manifest.entry]

/-! ## Missing components -/

namespace Component

def label (t : Declaration) (p : Component) : String := p.kind.name ++ "/" ++ p.childName t

/-- The object of a component in the tenant's namespace, if the tenant can own one. -/
def manifest? (s : Settings) (t : Declaration) (p : Component) : Option Manifest :=
  (p.build s t (some (Names.space s t.identifier))).toOption.map Child.manifest

variable {s : Settings} {t : Declaration} {p q : Component}

theorem label_of_build {ns : Option String} {child : Child} (h : p.build s t ns = .ok child) :
    child.label = p.label t := by
  have hk := key_of_build h
  simp only [Child.key, ObjectKey.mk.injEq] at hk
  rw [Child.label, label, hk.1, hk.2.2]

theorem manifest?_of_build {child : Child}
    (h : p.build s t (some (Names.space s t.identifier)) = .ok child) :
    p.manifest? s t = some child.manifest := by
  rw [manifest?, h]
  rfl

theorem key_of_manifest? {m : Manifest} (h : p.manifest? s t = some m) : m.key = p.keyFor s t := by
  rw [manifest?] at h
  cases hb : p.build s t (some (Names.space s t.identifier)) with
  | error fault => simp [hb, Except.toOption] at h
  | ok child =>
    rw [hb] at h
    obtain rfl := Option.some.inj h
    exact key_of_build hb

theorem keyFor_inj (h : p.keyFor s t = q.keyFor s t) : p = q := by
  rw [keyFor, keyFor, ObjectKey.mk.injEq] at h
  exact kind_inj h.1

end Component

namespace MemoryCluster

variable {c d : MemoryCluster} {s : Settings} {t : Declaration} {p : Component}
  {ps : List Component}

/-- Those of some components that the tenant needs and whose objects are not there. -/
def missing (c : MemoryCluster) (s : Settings) (t : Declaration) (ps : List Component) :
    List Component :=
  ps.filter fun p => p.isNeeded t && (c.objects.get? (p.keyFor s t)).isNone

theorem missing_congr
    (h : ∀ p ∈ ps, d.objects.get? (p.keyFor s t) = c.objects.get? (p.keyFor s t)) :
    d.missing s t ps = c.missing s t ps := by
  refine List.filter_congr fun p hp => ?_
  rw [h p hp]

theorem missing_cons_of_not_needed (hp : p.isNeeded t = false) :
    c.missing s t (p :: ps) = c.missing s t ps := by
  rw [missing, List.filter_cons_of_neg (by simp [hp])]
  rfl

theorem missing_cons_of_present (hp : (c.objects.get? (p.keyFor s t)).isSome = true) :
    c.missing s t (p :: ps) = c.missing s t ps := by
  rw [missing, List.filter_cons_of_neg]
  · rfl
  · cases hk : c.objects.get? (p.keyFor s t) with
    | none => simp [hk] at hp
    | some m => simp

theorem missing_cons_of_absent (hn : p.isNeeded t = true)
    (hp : c.objects.get? (p.keyFor s t) = none) :
    c.missing s t (p :: ps) = p :: c.missing s t ps := by
  rw [missing, List.filter_cons_of_pos (by simp [hn, hp])]
  rfl

theorem missing_sublist : (c.missing s t ps).Sublist (ps.filter (·.isNeeded t)) := by
  have hboth : c.missing s t ps =
      (ps.filter (·.isNeeded t)).filter fun p => (c.objects.get? (p.keyFor s t)).isNone := by
    rw [missing, List.filter_filter]
    refine List.filter_congr fun p _ => ?_
    rw [Bool.and_comm]
  rw [hboth]
  exact List.filter_sublist

theorem get?_of_mem_missing (h : p ∈ c.missing s t ps) : c.objects.get? (p.keyFor s t) = none := by
  have hp := (List.mem_filter.1 h).2
  rw [Bool.and_eq_true, Option.isNone_iff_eq_none] at hp
  exact hp.2

end MemoryCluster

/-! ## What is made -/

/-- The objects of the components `made` come in at the end, and `created` reports them. -/
structure Makes (s : Settings) (t : Declaration) (before after : Table ObjectKey Manifest)
    (made : List Component) (created : List String) : Prop where
  reports : created = made.map (Component.label t)
  objects : ∃ ms : List Manifest, made.map (Component.manifest? s t) = ms.map some ∧
    after = before ++ ms.map Manifest.entry

namespace Makes

variable {s : Settings} {t : Declaration} {a b c : Table ObjectKey Manifest}
  {made others : List Component} {created later : List String}

theorem nil (s : Settings) (t : Declaration) (a : Table ObjectKey Manifest) :
    Makes s t a a [] [] := ⟨rfl, [], rfl, by simp⟩

theorem append (h : Makes s t a b made created) (h' : Makes s t b c others later) :
    Makes s t a c (made ++ others) (created ++ later) := by
  obtain ⟨hc, ms, hms, hb⟩ := h
  obtain ⟨hc', ms', hms', hb'⟩ := h'
  refine ⟨by rw [hc, hc', List.map_append], ms ++ ms', ?_, ?_⟩
  · rw [List.map_append, List.map_append, hms, hms']
  · rw [hb', hb, List.map_append, List.append_assoc]

theorem appends (h : Makes s t a b made created) : ∃ added, b = a ++ added := by
  obtain ⟨-, ms, -, hb⟩ := h
  exact ⟨_, hb⟩

theorem unique (h : Makes s t a b made created) (h' : Makes s t a c made later) : c = b := by
  obtain ⟨-, ms, hms, rfl⟩ := h
  obtain ⟨-, ms', hms', rfl⟩ := h'
  have hsome : ms'.map some = ms.map some := hms'.symm.trans hms
  rw [(List.map_inj_right fun _ _ => Option.some.inj).1 hsome]

end Makes

theorem Supplies.makes {s : Settings} {t : Declaration} {p : Component} {child : Child}
    {c d : MemoryCluster} (hb : p.build s t (some (Names.space s t.identifier)) = .ok child)
    (h : Supplies child.manifest c (.ok .created) d) :
    Makes s t c.objects d.objects [p] [child.label] := by
  cases h with
  | created hf hm hc =>
    refine ⟨by rw [Component.label_of_build hb]; rfl, [child.manifest], ?_, ?_⟩
    · rw [List.map_singleton, Component.manifest?_of_build hb, List.map_singleton]
    · exact MemoryCluster.objects_holding hm

/-- Components are made in order, up to the first fault. -/
theorem SuppliesAll.makes {s : Settings} {t : Declaration} {ps : List Component}
    {c d : MemoryCluster} {r : Progress}
    (h : SuppliesAll s t (Names.space s t.identifier) ps c r d) (hps : ps.Nodup) :
    ∃ made rest, c.missing s t ps = made ++ rest ∧
      Makes s t c.objects d.objects made r.created ∧ (r.fault = none → rest = []) := by
  induction h with
  | done => exact ⟨[], [], rfl, .nil _ _ _, fun _ => rfl⟩
  | skipped hp h ih =>
    obtain ⟨made, rest, hmissing, hmakes, hrest⟩ := ih hps.of_cons
    rw [MemoryCluster.missing_cons_of_not_needed hp]
    exact ⟨made, rest, hmissing, hmakes, hrest⟩
  | unbuilt hp hb => exact ⟨[], _, rfl, .nil _ _ _, fun hf => absurd hf (by simp)⟩
  | failed hp hb h =>
    refine ⟨[], _, rfl, ?_, fun hf => absurd hf (by simp)⟩
    rw [h.objects_of_error]
    exact .nil _ _ _
  | @present p ps c d e child r hp hb h hr ih =>
    obtain ⟨made, rest, hmissing, hmakes, hrest⟩ := ih hps.of_cons
    have hthere := h.isSome_of_present
    have hsame : d.missing s t ps = c.missing s t ps :=
      MemoryCluster.missing_congr fun q _ => by rw [h.objects_of_present]
    rw [show child.manifest.key = _ from Component.key_of_build hb] at hthere
    rw [MemoryCluster.missing_cons_of_present hthere, ← hsame]
    rw [h.objects_of_present] at hmakes
    exact ⟨made, rest, hmissing, hmakes, hrest⟩
  | @created p ps c d e child r hp hb h hr ih =>
    obtain ⟨made, rest, hmissing, hmakes, hrest⟩ := ih hps.of_cons
    have hkey : child.manifest.key = p.keyFor s t := Component.key_of_build hb
    have hfree : c.objects.get? (p.keyFor s t) = none := by
      have hnone := h.isSome_of_created
      rwa [hkey, Option.isSome_eq_false_iff, Option.isNone_iff_eq_none] at hnone
    -- The new object is that of no component behind, so the same are missing there as before.
    have hsame : d.missing s t ps = c.missing s t ps := by
      refine MemoryCluster.missing_congr fun q hq => h.get?_of_ne ?_
      intro hkeys
      rw [hkey] at hkeys
      obtain rfl := Component.keyFor_inj hkeys
      exact (List.nodup_cons.1 hps).1 hq
    refine ⟨p :: made, rest, ?_, (h.makes hb).append hmakes, hrest⟩
    rw [MemoryCluster.missing_cons_of_absent hp hfree, ← hsame, hmissing, List.cons_append]

/-! ## Passes -/

/-- How a pass for a valid tenant can account for itself: it failed before it made anything, it made
the namespace, or it made the first of the missing components. -/
inductive Accounts (op : Operator) (t : Declaration) (c : MemoryCluster) (r : PassResult)
    (d : MemoryCluster) : Prop where
  | nothing (hr : r.outcome = .fatal) (hn : r.namespaceCreated = false) (hc : r.created = [])
    (ho : d.objects = c.objects)
  | opened (hr : r.outcome = .requeue) (hn : r.namespaceCreated = true) (hc : r.created = [])
    (hs : c.objects.get? (Names.spaceKey op.settings t.identifier) = none)
    (ho : d.objects = c.objects ++ [(Child.space op.settings t).manifest.entry])
  | supplied {made rest : List Component}
    (hr : r.outcome = .converged ∧ rest = [] ∨ r.outcome = .fatal)
    (hn : r.namespaceCreated = false)
    (hs : (c.objects.get? (Names.spaceKey op.settings t.identifier)).isSome = true)
    (hm : c.missing op.settings t Component.all = made ++ rest)
    (ho : Makes op.settings t c.objects d.objects made r.created)

section Renewed

variable (s : Settings) (t : Declaration) (finalizers : List String) (version : Option String)

theorem Component.manifest?_renewed :
    Component.manifest? s (t.renewed finalizers version) = Component.manifest? s t := by
  funext p
  rw [manifest?, manifest?, build_renewed]
  rfl

theorem Makes.of_renewed {a b : Table ObjectKey Manifest} {made : List Component}
    {created : List String} (h : Makes s (t.renewed finalizers version) a b made created) :
    Makes s t a b made created := by
  obtain ⟨hc, ms, hms, hb⟩ := h
  rw [Component.manifest?_renewed] at hms
  exact ⟨hc, ms, hms, hb⟩

end Renewed

namespace Accounts

variable {op : Operator} {t : Declaration} {c c' d : MemoryCluster} {r : PassResult}

/-- What is made for a tenant has nothing to do with its finalizers and its version. -/
theorem of_renewed {fs : List String} {v : Option String} (h : Accounts op (t.renewed fs v) c r d) :
    Accounts op t c r d := by
  cases h with
  | nothing hr hn hc ho => exact .nothing hr hn hc ho
  | opened hr hn hc hs ho => exact .opened hr hn hc hs ho
  | supplied hr hn hs hm ho => exact .supplied hr hn hs hm (Makes.of_renewed _ _ _ _ ho)

theorem of_objects (h : Accounts op t c' r d) (ho : c'.objects = c.objects) :
    Accounts op t c r d := by
  have hmissing : c'.missing op.settings t Component.all = c.missing op.settings t Component.all :=
    MemoryCluster.missing_congr fun _ _ => by rw [ho]
  cases h with
  | nothing hr hn hc hd => exact .nothing hr hn hc (hd.trans ho)
  | opened hr hn hc hs hd =>
    rw [ho] at hs hd
    exact .opened hr hn hc hs hd
  | supplied hr hn hs hm hd =>
    rw [ho] at hs hd
    exact .supplied hr hn hs (hmissing.symm.trans hm) hd

end Accounts

theorem Maintains.accounts {op : Operator} {name : Json} {r : PassResult} {body : Json}
    {c d : MemoryCluster} (h : Maintains op (.start name) body c r d) {t : Declaration}
    (ht : Declaration.parse body = .ok t) : Accounts op t c r d := by
  cases h with
  | invalid ht' => exact absurd (ht'.symm.trans ht) (by simp)
  | unopened ht' h => exact .nothing rfl rfl rfl h.objects_of_error
  | opened ht' h =>
    obtain rfl := Except.ok.inj (ht'.symm.trans ht)
    cases h with
    | created hf hm hc => exact .opened rfl rfl rfl hm (MemoryCluster.objects_holding hm)
  | @supplied t' p c' _ ht' h hp =>
    obtain rfl := Except.ok.inj (ht'.symm.trans ht)
    obtain ⟨made, rest, hmissing, hmakes, hrest⟩ := hp.makes Component.nodup_all
    have hsame : c'.missing op.settings t' Component.all =
        c.missing op.settings t' Component.all :=
      MemoryCluster.missing_congr fun _ _ => by rw [h.objects_of_present]
    rw [hsame] at hmissing
    rw [h.objects_of_present] at hmakes
    cases hf : p.fault with
    | none =>
      simp only [PassResult.supplied, hf]
      exact .supplied (.inl ⟨rfl, hrest hf⟩) rfl h.isSome_of_present hmissing hmakes
    | some fault =>
      simp only [PassResult.supplied, hf]
      exact .supplied (.inr rfl) rfl h.isSome_of_present hmissing hmakes

/-- The tenant stored under a name is marked for deletion. -/
def MemoryCluster.HasLeaving (c : MemoryCluster) (name : Json) : Prop :=
  ∃ key kept m, TenantKey.of name = .ok key ∧ c.tenants.get? key = some kept ∧
    metadataOf kept.body = .ok m ∧ m.isMarked = true

theorem Finds.hasLeaving {c : MemoryCluster} {name body : Json} (hb : Finds c name body)
    {m : Metadata} (hm : metadataOf body = .ok m) (hd : m.isMarked = true) : c.HasLeaving name := by
  obtain ⟨-, key, kept, hkey, hk, rfl⟩ := hb
  exact ⟨key, kept, m, hkey, hk, hm, hd⟩

/-- A pass either makes and reports nothing, or it is for a valid tenant. -/
theorem Reconciles.accounts {op : Operator} {name : Json} {c d : MemoryCluster} {r : PassResult}
    (h : Reconciles op name c r d) (hc : ¬ c.HasLeaving name) :
    (r.namespaceCreated = false ∧ r.created = [] ∧ d.objects = c.objects) ∨
      ∃ body t, Finds c name body ∧ Declaration.parse body = .ok t ∧ Accounts op t c r d := by
  cases h with
  | unread hf => exact .inl ⟨rfl, rfl, rfl⟩
  | unnamed hf hk => exact .inl ⟨rfl, rfl, rfl⟩
  | absent hf hk ht => exact .inl ⟨rfl, rfl, rfl⟩
  | unstaged hb hm => exact .inl ⟨rfl, rfl, rfl⟩
  | released hb hm hd hg => exact absurd (hb.hasLeaving hm hd) hc
  | uncleaned hb hm hd hg h => exact absurd (hb.hasLeaving hm hd) hc
  | cleaned hb hm hd hg h => exact absurd (hb.hasLeaving hm hd) hc
  | @guarded body m r d hb hm hd hg h =>
    cases ht : Declaration.parse body with
    | ok t => exact .inr ⟨body, t, hb, ht, (h.accounts ht).of_objects rfl⟩
    | error fault =>
      cases h with
      | invalid ht' => exact .inl ⟨rfl, rfl, rfl⟩
      | unopened ht' => exact absurd (ht.symm.trans ht') (by simp)
      | opened ht' => exact absurd (ht.symm.trans ht') (by simp)
      | supplied ht' => exact absurd (ht.symm.trans ht') (by simp)
  | unguarded hb hm hd hg h => exact .inl ⟨rfl, rfl, h.objects_eq⟩
  | @newlyGuarded body stored m r d e hb hm hd hg h hr =>
    obtain rfl := h.stored_eq
    have hobjects : d.objects = c.objects := h.objects_eq
    cases ht : Declaration.parse body with
    | ok t =>
      obtain rfl := Except.ok.inj (hm.symm.trans (metadataOf_of_parse ht))
      have hguarded := hr.accounts (op.parse_guarded ht (c.noting (.readingTenant name)))
      exact .inr ⟨body, t, hb, ht, Accounts.of_renewed (hguarded.of_objects hobjects)⟩
    | error fault =>
      have hinvalid : ∀ {t : Declaration}, Declaration.parse ((op.guardedForm body m).withVersion
          (c.noting (.readingTenant name)).version) ≠ .ok t := fun ht' =>
        absurd (ht.symm.trans (op.parse_of_parse_guarded hm ht')) (by simp)
      cases hr with
      | invalid ht' => exact .inl ⟨rfl, rfl, hobjects⟩
      | unopened ht' => exact absurd ht' hinvalid
      | opened ht' => exact absurd ht' hinvalid
      | supplied ht' => exact absurd ht' hinvalid

/-! ## What a result says of itself -/

/-- A result asks for another pass if and only if it comes of making a namespace. -/
structure PassResult.Coherent (op : Operator) (r : PassResult) : Prop where
  requeue : r.outcome = .requeue ↔ r.namespaceCreated = true
  delay : r.requeueAfter = if r.namespaceCreated then op.requeueDelay else none
  created : r.namespaceCreated = true → r.created = []

namespace PassResult.Coherent

variable {op : Operator} {name : Json}

theorem start : Coherent op (start name) := by
  constructor <;> simp [PassResult.start]

theorem failed {r : PassResult} (hn : r.namespaceCreated = false) (hd : r.requeueAfter = none)
    (fault : Fault) : Coherent op (r.aborted fault) := by
  constructor <;> simp [aborted, hn, hd]

end PassResult.Coherent

theorem Maintains.coherent {op : Operator} {name : Json} {r : PassResult} {body : Json}
    {c d : MemoryCluster} (h : Maintains op (.start name) body c r d) : r.Coherent op := by
  cases h with
  | invalid ht => exact .failed rfl rfl _
  | unopened ht h => exact .failed rfl rfl _
  | opened ht h => constructor <;> simp [PassResult.opened, PassResult.start]
  | @supplied t p _ _ ht h hp =>
    cases hf : p.fault with
    | none =>
      simp only [PassResult.supplied, hf]
      constructor <;> simp [PassResult.start]
    | some fault =>
      simp only [PassResult.supplied, hf]
      exact .failed rfl rfl _

theorem Reconciles.coherent {op : Operator} {name : Json} {c d : MemoryCluster} {r : PassResult}
    (h : Reconciles op name c r d) : r.Coherent op := by
  cases h with
  | absent => exact .start
  | released => exact .start
  | cleaned => exact .start
  | guarded hb hm hd hg h => exact h.coherent
  | newlyGuarded hb hm hd hg h hr => exact hr.coherent
  | _ => exact .failed rfl rfl _

/-! ## Whole passes -/

theorem keys_of_manifests {s : Settings} {t : Declaration} {made : List Component}
    {ms : List Manifest} (h : made.map (Component.manifest? s t) = ms.map some) :
    Table.keys (ms.map Manifest.entry) = made.map (Component.keyFor s t) := by
  induction made generalizing ms with
  | nil =>
    obtain rfl := List.map_eq_nil_iff.1 h.symm
    rfl
  | cons p rest ih =>
    obtain ⟨m, later, rfl, hm, hlater⟩ := List.map_eq_cons_iff.1 h.symm
    have hrest := ih hlater.symm
    rw [List.map_cons, List.map_cons, ← Component.key_of_manifest? hm.symm, ← hrest]
    rfl

/-- What is reported as a namespace. -/
def Operator.openedEntries (op : Operator) (t : Declaration) (r : PassResult) :
    Table ObjectKey Manifest :=
  if r.namespaceCreated then [(Child.space op.settings t).manifest.entry] else []

/-- What comes in is what is reported, under keys that were free. -/
theorem Accounts.added {op : Operator} {t : Declaration} {c d : MemoryCluster} {r : PassResult}
    (h : Accounts op t c r d) :
    ∃ added made, d.objects = c.objects ++ added ∧ added.keys.Nodup ∧
      (∀ k ∈ added.keys, c.objects.get? k = none) ∧
      List.Sublist made (Component.all.filter (·.isNeeded t)) ∧
      Makes op.settings t (op.openedEntries t r) added made r.created := by
  cases h with
  | nothing hr hn hc ho =>
    refine ⟨[], [], by simp [ho], List.nodup_nil, by simp [Table.keys], List.nil_sublist _, ?_⟩
    simp only [Operator.openedEntries, hn, hc]
    exact .nil _ _ _
  | opened hr hn hc hs ho =>
    refine ⟨_, [], ho, by simp [Table.keys], ?_, List.nil_sublist _, ?_⟩
    · intro k hk
      rw [List.mem_singleton.1 hk]
      exact hs
    · simp only [Operator.openedEntries, hn, hc]
      exact .nil _ _ _
  | @supplied made rest hr hn hs hm ho =>
    obtain ⟨hreports, ms, hms, hobjects⟩ := ho
    have hfirst : made.Sublist (c.missing op.settings t Component.all) := by
      rw [hm]
      exact List.sublist_append_left _ _
    have hneeded := hfirst.trans MemoryCluster.missing_sublist
    have hnodup : made.Nodup := (Component.nodup_all.sublist List.filter_sublist).sublist hneeded
    have hkeys := keys_of_manifests hms
    refine ⟨ms.map Manifest.entry, made, hobjects, ?_, ?_, hneeded, hreports, ms, hms, ?_⟩
    · rw [hkeys]
      exact List.Pairwise.map _ (fun p q hpq hkey => hpq (Component.keyFor_inj hkey)) hnodup
    · intro k hk
      rw [hkeys, List.mem_map] at hk
      obtain ⟨p, hp, rfl⟩ := hk
      exact MemoryCluster.get?_of_mem_missing (hfirst.subset hp)
    · simp [Operator.openedEntries, hn]

/-- The account of a pass that does not find its tenant marked for deletion, however it ends. What
was there stays as it was. What comes in is the namespace, if one is reported, and the object of
each component that is reported, in the order of the components. -/
theorem reconcile_accounts (op : Operator) (name : Json) (w : World MemoryCluster)
    (hw : ¬ w.cluster.HasLeaving name) :
    let c := w.cluster
    let r := (op.reconcile name w).1
    let d := (op.reconcile name w).2.cluster
    (∀ k m, c.objects.get? k = some m → d.objects.get? k = some m) ∧
    (∃ added, d.objects = c.objects ++ added ∧ added.keys.Nodup ∧
      (∀ k ∈ added.keys, c.objects.get? k = none) ∧
      ((added = [] ∧ r.namespaceCreated = false ∧ r.created = []) ∨
        ∃ body t made, Finds c name body ∧ Declaration.parse body = .ok t ∧
          List.Sublist made (Component.all.filter (·.isNeeded t)) ∧
          Makes op.settings t (op.openedEntries t r) added made r.created)) ∧
    (r.outcome = .fatal ↔ r.fault.isSome) ∧
    (r.outcome = .requeue ↔ r.namespaceCreated = true) ∧
    (r.requeueAfter = if r.namespaceCreated then op.requeueDelay else none) ∧
    (op.requeueDelay.isSome → (r.requeueAfter.isSome ↔ r.outcome = .requeue)) ∧
    (r.namespaceCreated = true → r.created = []) := by
  intro c r d
  have h := reconcile_reconciles op name w
  obtain ⟨hrequeue, hdelay, hcreated⟩ := h.coherent
  have hkeeps : ∀ added, d.objects = c.objects ++ added →
      ∀ k m, c.objects.get? k = some m → d.objects.get? k = some m := by
    intro added hadded k m hk
    rw [hadded, Table.get?_append, hk, Option.some_or]
  have hset : op.requeueDelay.isSome → (r.requeueAfter.isSome ↔ r.outcome = .requeue) := by
    intro hsome
    show (op.reconcile name w).1.requeueAfter.isSome = true ↔ _
    rw [hrequeue, hdelay]
    cases hn : (op.reconcile name w).1.namespaceCreated with
    | true => simp [hsome]
    | false => simp
  obtain ⟨hn, hc, ho⟩ | ⟨body, t, hb, ht, ha⟩ := h.accounts hw
  · have hnone : d.objects = c.objects ++ [] := by rw [List.append_nil]; exact ho
    exact ⟨hkeeps [] hnone, ⟨[], hnone, List.nodup_nil, by simp [Table.keys], .inl ⟨rfl, hn, hc⟩⟩,
      h.fatal_iff, hrequeue, hdelay, hset, hcreated⟩
  · obtain ⟨added, made, hadded, hnodup, hfree, hneeded, hmakes⟩ := ha.added
    exact ⟨hkeeps added hadded, ⟨added, hadded, hnodup, hfree,
      .inr ⟨body, t, made, hb, ht, hneeded, hmakes⟩⟩, h.fatal_iff, hrequeue, hdelay, hset, hcreated⟩

/-- The pass of a plain tenant that has its namespace, cut short where its deployment is made. -/
theorem reconcile_accounts_cut_short :
    let op : Operator := {}
    let start : World MemoryCluster := ⟨.withPlainTenant "a", []⟩
    let opened := (op.reconcile (.str "a") start).2
    let w : World MemoryCluster := { opened with cluster := { opened.cluster with
      failures := [((.create, some .deployment), .api (some 500) none)] } }
    let r := (op.reconcile (.str "a") w).1
    ¬ w.cluster.HasLeaving (.str "a") ∧ r.outcome = .fatal ∧ r.created = ["Secret/db-admin"] ∧
      ∃ added, (op.reconcile (.str "a") w).2.cluster.objects = w.cluster.objects ++ added ∧
        added.keys.Nodup := by
  intro op start opened w r
  have hcut : r.outcome = .fatal ∧ r.created = ["Secret/db-admin"] := by decide +kernel
  have hkept : (w.cluster.tenants.get? (.text "a")).all (fun kept =>
      (metadataOf kept.body).toOption.all (!·.isMarked)) = true := by
    decide +kernel
  have hstays : ¬ w.cluster.HasLeaving (.str "a") := by
    rintro ⟨key, kept, m, hkey, hk, hm, hd⟩
    obtain rfl := Except.ok.inj ((TenantKey.of_str "a").symm.trans hkey)
    simp [hk, hm, hd, Except.toOption] at hkept
  obtain ⟨-, ⟨added, hadded, hnodup, -⟩, -⟩ := reconcile_accounts op (.str "a") w hstays
  exact ⟨hstays, hcut.1, hcut.2, added, hadded, hnodup⟩

end MoodleTenancy
