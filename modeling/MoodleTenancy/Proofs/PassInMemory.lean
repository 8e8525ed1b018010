import MoodleTenancy.Operator.Handlers
import MoodleTenancy.Proofs.MemoryCalls

/-!
# Passes on a cluster in memory

What a pass can come to on a cluster in memory, without its log: relations between the cluster
before, what is returned, and the cluster after. Every way in which a pass can end is a constructor.

* `Supplies`: supplying one object. `SuppliesAll`: supplying the objects of components.
* `Replaces`: putting a body in the place of the stored one.
* `CleansUp`: deleting a namespace and taking the guard off.
* `Maintains`: a pass from a guarded tenant on. `Reconciles`: a whole pass. `Pursues`: a whole pass
  for a tenant that is stored.
* `supply_supplies`, `supplyComponents_suppliesAll`, `cleanUp_cleansUp`, `maintain_maintains`,
  `reconcile_reconciles`: each job does what its relation says.
-/

namespace MoodleTenancy
set_option autoImplicit false

/-! ## Results and bodies -/

namespace PassResult

def aborted (r : PassResult) (fault : Fault) : PassResult :=
  { r with outcome := .fatal, fault := some fault }

def opened (r : PassResult) (op : Operator) : PassResult :=
  { r with outcome := .requeue, namespaceCreated := true, requeueAfter := op.requeueDelay }

def supplied (r : PassResult) (p : Progress) : PassResult :=
  match p.fault with
  | some fault => { r with created := p.created }.aborted fault
  | none => { r with created := p.created }

end PassResult

def Names.spaceKey (s : Settings) (id : String) : ObjectKey := ⟨.namespaceKind, none, space s id⟩

@[simp] theorem key_space (s : Settings) (t : Declaration) :
    (Child.space s t).manifest.key = Names.spaceKey s t.identifier := rfl

theorem Component.kind_ne_namespaceKind (p : Component) : p.kind ≠ .namespaceKind := by
  cases p <;> decide

theorem Component.key_of_build {s : Settings} {t : Declaration} {ns : Option String}
    {p : Component} {child : Child} (h : p.build s t ns = .ok child) :
    child.key = ⟨p.kind, ns, p.childName t⟩ := by
  rw [build] at h
  cases ho : Owner.of t with
  | error fault => simp [ho, Except.map] at h
  | ok o =>
    rw [ho] at h
    obtain rfl := Except.ok.inj h
    exact key_child s t o ns p

namespace Operator

def guardedForm (op : Operator) (body : Json) (m : Metadata) : Json :=
  replaceFinalizers body ((m.finalizers ++ [op.guard]).map .str)

def releasedForm (op : Operator) (body : Json) (m : Metadata) : Json :=
  replaceFinalizers body ((m.finalizers.filter (· != op.guard)).map .str)

theorem metadataOf_guardedForm {body : Json} {m : Metadata} (h : metadataOf body = .ok m)
    (op : Operator) :
    metadataOf (op.guardedForm body m) = .ok { m with finalizers := m.finalizers ++ [op.guard] } :=
  metadataOf_replaceFinalizers h _

theorem metadataOf_guarded {body : Json} {m : Metadata} (h : metadataOf body = .ok m)
    (op : Operator) (c : MemoryCluster) :
    metadataOf ((op.guardedForm body m).withVersion c.version) =
      .ok { m with
        finalizers := m.finalizers ++ [op.guard]
        resourceVersion := toString c.nextVersion } :=
  metadataOf_withVersion (metadataOf_guardedForm h op) _

theorem parse_guarded {body : Json} {t : Declaration} (h : Declaration.parse body = .ok t)
    (op : Operator) (c : MemoryCluster) :
    Declaration.parse ((op.guardedForm body t.metadata).withVersion c.version) =
      .ok { t with metadata := { t.metadata with
        finalizers := t.metadata.finalizers ++ [op.guard]
        resourceVersion := toString c.nextVersion } } := by
  have hm := metadataOf_of_parse h
  have hg := parse_setMetadata h (metadataOf_guardedForm hm op)
  exact parse_setMetadata hg (metadataOf_guarded hm op c)

theorem parse_of_parse_guarded {body : Json} {m : Metadata} (hm : metadataOf body = .ok m)
    {op : Operator} {c : MemoryCluster} {t : Declaration}
    (h : Declaration.parse ((op.guardedForm body m).withVersion c.version) = .ok t) :
    Declaration.parse body = .ok { t with metadata := m } := by
  have hg := parse_of_parse_setMetadata (metadataOf_guardedForm hm op) h
  rw [guardedForm, replaceFinalizers_eq] at hg
  have hb := parse_of_parse_setMetadata hm hg
  exact hb

theorem isGuarded_guarded {body : Json} {m : Metadata} (h : metadataOf body = .ok m)
    (op : Operator) (c : MemoryCluster) :
    IsGuarded op.guard ((op.guardedForm body m).withVersion c.version) := by
  rw [isGuarded_iff (metadataOf_guarded h op c)]
  simp

theorem isReleased_guarded {body : Json} {m : Metadata} (h : metadataOf body = .ok m)
    (op : Operator) (c : MemoryCluster) :
    MemoryCluster.isReleased
      (.ofOption (((op.guardedForm body m).withVersion c.version).get? "metadata")) = false := by
  rw [Bool.eq_false_iff]
  intro hr
  obtain ⟨-, hf⟩ := MemoryCluster.marked_of_isReleased (metadataOf_guarded h op c) hr
  simp at hf

theorem metadataOf_releasedForm {body : Json} {m : Metadata} (h : metadataOf body = .ok m)
    (op : Operator) :
    metadataOf (op.releasedForm body m) =
      .ok { m with finalizers := m.finalizers.filter (· != op.guard) } :=
  metadataOf_replaceFinalizers h _

end Operator

/-! ## Supplying objects -/

inductive Supplies (m : Manifest) (c : MemoryCluster) :
    Except Fault Supplied → MemoryCluster → Prop where
  | unread {fault : Fault} (hf : c.failureOf (.reading m.key) = some fault) :
    Supplies m c (.error fault) (c.noting (.reading m.key))
  | present {found : Manifest} (hf : c.failureOf (.reading m.key) = none)
    (hm : c.objects.get? m.key = some found) :
    Supplies m c (.ok .present) (c.noting (.reading m.key))
  | uncreated {fault : Fault} (hf : c.failureOf (.reading m.key) = none)
    (hm : c.objects.get? m.key = none) (hc : c.failureOf (.creating m.key) = some fault) :
    Supplies m c (.error fault) ((c.noting (.reading m.key)).noting (.creating m.key))
  | created (hf : c.failureOf (.reading m.key) = none) (hm : c.objects.get? m.key = none)
    (hc : c.failureOf (.creating m.key) = none) :
    Supplies m c (.ok .created) (((c.noting (.reading m.key)).noting (.creating m.key)).holding m)

/-- Components are supplied in order, up to the first fault. -/
inductive SuppliesAll (s : Settings) (t : Declaration) (ns : String) :
    List Component → MemoryCluster → Progress → MemoryCluster → Prop where
  | done {c : MemoryCluster} : SuppliesAll s t ns [] c {} c
  | skipped {p : Component} {rest : List Component} {c d : MemoryCluster} {r : Progress}
    (hp : p.isNeeded t = false) (h : SuppliesAll s t ns rest c r d) :
    SuppliesAll s t ns (p :: rest) c r d
  | unbuilt {p : Component} {rest : List Component} {c : MemoryCluster} {fault : Fault}
    (hp : p.isNeeded t = true) (hb : p.build s t (some ns) = .error fault) :
    SuppliesAll s t ns (p :: rest) c { fault := some fault } c
  | failed {p : Component} {rest : List Component} {c d : MemoryCluster} {child : Child}
    {fault : Fault} (hp : p.isNeeded t = true) (hb : p.build s t (some ns) = .ok child)
    (h : Supplies child.manifest c (.error fault) d) :
    SuppliesAll s t ns (p :: rest) c { fault := some fault } d
  | present {p : Component} {rest : List Component} {c d e : MemoryCluster} {child : Child}
    {r : Progress} (hp : p.isNeeded t = true) (hb : p.build s t (some ns) = .ok child)
    (h : Supplies child.manifest c (.ok .present) d) (hr : SuppliesAll s t ns rest d r e) :
    SuppliesAll s t ns (p :: rest) c r e
  | created {p : Component} {rest : List Component} {c d e : MemoryCluster} {child : Child}
    {r : Progress} (hp : p.isNeeded t = true) (hb : p.build s t (some ns) = .ok child)
    (h : Supplies child.manifest c (.ok .created) d) (hr : SuppliesAll s t ns rest d r e) :
    SuppliesAll s t ns (p :: rest) c { r with created := child.label :: r.created } e

/-! ## Replacing tenants -/

/-- The body takes the place of the one stored under a name, with a new version. -/
inductive Replaces (name : String) (sent : Json) (c : MemoryCluster) :
    Except Fault Json → MemoryCluster → Prop where
  | refused {fault : Fault} (h : c.refusal name sent = some fault) :
    Replaces name sent c (.error fault) (c.noting (.replacingTenant name))
  | taken {current : StoredTenant} (h : c.refusal name sent = none)
    (hc : c.tenants.get? (.text name) = some current) :
    Replaces name sent c (.ok (sent.withVersion c.version))
      ((c.noting (.replacingTenant name)).replaced name current (sent.withVersion c.version))

inductive CleansUp (op : Operator) (body : Json) (m : Metadata) (c : MemoryCluster) :
    Except Fault Json → MemoryCluster → Prop where
  | undeleted {fault : Fault}
    (hf : c.failureOf (.deleting (Names.spaceKey op.settings m.name)) = some fault) :
    CleansUp op body m c (.error fault) (c.noting (.deleting (Names.spaceKey op.settings m.name)))
  | deleted {e : Except Fault Json} {d : MemoryCluster}
    (hf : c.failureOf (.deleting (Names.spaceKey op.settings m.name)) = none)
    (h : Replaces m.name (op.releasedForm body m)
      ((c.noting (.deleting (Names.spaceKey op.settings m.name))).emptied
        (Names.spaceKey op.settings m.name)) e d) :
    CleansUp op body m c e d

/-! ## Passes -/

inductive Maintains (op : Operator) (r : PassResult) (body : Json) (c : MemoryCluster) :
    PassResult → MemoryCluster → Prop where
  | invalid {fault : Fault} (ht : Declaration.parse body = .error fault) :
    Maintains op r body c ({ r with body := body.toOption }.aborted fault) c
  | unopened {t : Declaration} {fault : Fault} {d : MemoryCluster}
    (ht : Declaration.parse body = .ok t)
    (h : Supplies (Child.space op.settings t).manifest c (.error fault) d) :
    Maintains op r body c
      ({ r with body := body.toOption, declaration := some t }.aborted fault) d
  | opened {t : Declaration} {d : MemoryCluster} (ht : Declaration.parse body = .ok t)
    (h : Supplies (Child.space op.settings t).manifest c (.ok .created) d) :
    Maintains op r body c
      ({ r with body := body.toOption, declaration := some t }.opened op) d
  | supplied {t : Declaration} {p : Progress} {d e : MemoryCluster}
    (ht : Declaration.parse body = .ok t)
    (h : Supplies (Child.space op.settings t).manifest c (.ok .present) d)
    (hp : SuppliesAll op.settings t (Names.space op.settings t.identifier) Component.all d p e) :
    Maintains op r body c
      ({ r with body := body.toOption, declaration := some t }.supplied p) e

/-- The body that a cluster answers with when asked for the tenant of a name. -/
structure Finds (c : MemoryCluster) (name body : Json) : Prop where
  answered : c.failureOf (.readingTenant name) = none
  stored : ∃ key t, TenantKey.of name = .ok key ∧ c.tenants.get? key = some t ∧ t.body = body

inductive Reconciles (op : Operator) (name : Json) (c : MemoryCluster) :
    PassResult → MemoryCluster → Prop where
  | unread {fault : Fault} (hf : c.failureOf (.readingTenant name) = some fault) :
    Reconciles op name c ((PassResult.start name).aborted fault) (c.noting (.readingTenant name))
  | unnamed {fault : Fault} (hf : c.failureOf (.readingTenant name) = none)
    (hk : TenantKey.of name = .error fault) :
    Reconciles op name c ((PassResult.start name).aborted fault) (c.noting (.readingTenant name))
  | absent {key : TenantKey} (hf : c.failureOf (.readingTenant name) = none)
    (hk : TenantKey.of name = .ok key) (ht : c.tenants.get? key = none) :
    Reconciles op name c (.start name) (c.noting (.readingTenant name))
  | unstaged {body : Json} {fault : Fault} (hb : Finds c name body)
    (hm : metadataOf body = .error fault) :
    Reconciles op name c ((PassResult.start name).aborted fault) (c.noting (.readingTenant name))
  | released {body : Json} {m : Metadata} (hb : Finds c name body) (hm : metadataOf body = .ok m)
    (hd : m.isMarked = true) (hg : m.finalizers.contains op.guard = false) :
    Reconciles op name c (.start name) (c.noting (.readingTenant name))
  | uncleaned {body : Json} {m : Metadata} {fault : Fault} {d : MemoryCluster}
    (hb : Finds c name body) (hm : metadataOf body = .ok m) (hd : m.isMarked = true)
    (hg : m.finalizers.contains op.guard = true)
    (h : CleansUp op body m (c.noting (.readingTenant name)) (.error fault) d) :
    Reconciles op name c ((PassResult.start name).aborted fault) d
  | cleaned {body stored : Json} {m : Metadata} {d : MemoryCluster}
    (hb : Finds c name body) (hm : metadataOf body = .ok m) (hd : m.isMarked = true)
    (hg : m.finalizers.contains op.guard = true)
    (h : CleansUp op body m (c.noting (.readingTenant name)) (.ok stored) d) :
    Reconciles op name c (.start name) d
  | guarded {body : Json} {m : Metadata} {r : PassResult} {d : MemoryCluster}
    (hb : Finds c name body) (hm : metadataOf body = .ok m) (hd : m.isMarked = false)
    (hg : m.finalizers.contains op.guard = true)
    (h : Maintains op (.start name) body (c.noting (.readingTenant name)) r d) :
    Reconciles op name c r d
  | unguarded {body : Json} {m : Metadata} {fault : Fault} {d : MemoryCluster}
    (hb : Finds c name body) (hm : metadataOf body = .ok m) (hd : m.isMarked = false)
    (hg : m.finalizers.contains op.guard = false)
    (h : Replaces m.name (op.guardedForm body m) (c.noting (.readingTenant name)) (.error fault) d) :
    Reconciles op name c ({ PassResult.start name with body := some body }.aborted fault) d
  | newlyGuarded {body stored : Json} {m : Metadata} {r : PassResult} {d e : MemoryCluster}
    (hb : Finds c name body) (hm : metadataOf body = .ok m) (hd : m.isMarked = false)
    (hg : m.finalizers.contains op.guard = false)
    (h : Replaces m.name (op.guardedForm body m) (c.noting (.readingTenant name)) (.ok stored) d)
    (hr : Maintains op (.start name) stored d r e) :
    Reconciles op name c r e

/-! ## What lasts -/

section Lasting

variable {P : MemoryCluster → Prop} (hP : Lasts P) {c d : MemoryCluster}
include hP

theorem Supplies.lasts {m : Manifest} {e : Except Fault Supplied} (h : Supplies m c e d)
    (hc : P c) : P d := by
  cases h with
  | unread hf => exact hP.noting _ hc
  | present hf hm => exact hP.noting _ hc
  | uncreated hf hm hcr => exact hP.noting _ (hP.noting _ hc)
  | created hf hm hcr => exact hP.holding _ (hP.noting _ (hP.noting _ hc))

theorem SuppliesAll.lasts {s : Settings} {t : Declaration} {ns : String} {ps : List Component}
    {r : Progress} (h : SuppliesAll s t ns ps c r d) (hc : P c) : P d := by
  induction h with
  | done => exact hc
  | skipped hp h ih => exact ih hc
  | unbuilt hp hb => exact hc
  | failed hp hb h => exact h.lasts hP hc
  | present hp hb h hr ih => exact ih (h.lasts hP hc)
  | created hp hb h hr ih => exact ih (h.lasts hP hc)

theorem Maintains.lasts {op : Operator} {r r' : PassResult} {body : Json}
    (h : Maintains op r body c r' d) (hc : P c) : P d := by
  cases h with
  | invalid ht => exact hc
  | unopened ht h => exact h.lasts hP hc
  | opened ht h => exact h.lasts hP hc
  | supplied ht h hp => exact hp.lasts hP (h.lasts hP hc)

theorem Replaces.lasts {name : String} {sent : Json} {e : Except Fault Json}
    (h : Replaces name sent c e d) (hc : P c) : P d := by
  cases h with
  | refused h => exact hP.noting _ hc
  | taken h hcur => exact hP.replaced _ _ _ (hP.noting _ hc)

theorem CleansUp.lasts {op : Operator} {body : Json} {m : Metadata} {e : Except Fault Json}
    (h : CleansUp op body m c e d) (hc : P c) : P d := by
  cases h with
  | undeleted hf => exact hP.noting _ hc
  | deleted hf h => exact h.lasts hP (hP.emptied _ (hP.noting _ hc))

/-- What holds after the read of the tenant lasts. -/
theorem Reconciles.lasts_of_noting {op : Operator} {name : Json} {r : PassResult}
    (h : Reconciles op name c r d) (hnoted : P (c.noting (.readingTenant name))) : P d := by
  cases h with
  | uncleaned hb hm hd hg h => exact h.lasts hP hnoted
  | cleaned hb hm hd hg h => exact h.lasts hP hnoted
  | guarded hb hm hd hg h => exact h.lasts hP hnoted
  | unguarded hb hm hd hg h => exact h.lasts hP hnoted
  | newlyGuarded hb hm hd hg h hr => exact hr.lasts hP (h.lasts hP hnoted)
  | _ => exact hnoted

theorem Reconciles.lasts {op : Operator} {name : Json} {r : PassResult}
    (h : Reconciles op name c r d) (hc : P c) : P d :=
  h.lasts_of_noting hP (hP.noting _ hc)

end Lasting

/-! ## What the relations leave alone -/

namespace Supplies

variable {m : Manifest} {c d : MemoryCluster} {e : Except Fault Supplied}

theorem failures_eq (h : Supplies m c e d) : d.failures = c.failures := h.lasts (.failures _) rfl

theorem tenants_eq (h : Supplies m c e d) : d.tenants = c.tenants := by
  cases h <;> rfl

theorem get?_of_ne (h : Supplies m c e d) {k : ObjectKey} (hk : m.key ≠ k) :
    d.objects.get? k = c.objects.get? k := by
  cases h with
  | created => exact Table.get?_insert_ne hk _ _
  | _ => rfl

theorem isSome_of_present (h : Supplies m c (.ok .present) d) :
    (c.objects.get? m.key).isSome = true := by
  cases h with
  | present hf hm => rw [hm]; rfl

theorem objects_of_error {fault : Fault} (h : Supplies m c (.error fault) d) :
    d.objects = c.objects := by
  cases h <;> rfl

theorem objects_of_present (h : Supplies m c (.ok .present) d) : d.objects = c.objects := by
  cases h with
  | present => rfl

theorem isSome_of_created (h : Supplies m c (.ok .created) d) :
    (c.objects.get? m.key).isSome = false := by
  cases h with
  | created hf hm hc => rw [hm]; rfl

end Supplies

theorem Component.key_ne {p q : Component} (h : p ≠ q) {s : Settings} {t : Declaration}
    {ns : Option String} {a b : Child} (ha : p.build s t ns = .ok a)
    (hb : q.build s t ns = .ok b) : a.key ≠ b.key := by
  intro he
  rw [key_of_build ha, key_of_build hb, ObjectKey.mk.injEq] at he
  exact h (kind_inj he.1)

theorem Component.nodup_all : Component.all.Nodup := by decide

namespace SuppliesAll

variable {s : Settings} {t : Declaration} {ns : String} {ps : List Component}
  {c d : MemoryCluster} {r : Progress}

theorem tenants_eq (h : SuppliesAll s t ns ps c r d) : d.tenants = c.tenants := by
  induction h with
  | done => rfl
  | skipped hp h ih => exact ih
  | unbuilt hp hb => rfl
  | failed hp hb h => exact h.tenants_eq
  | present hp hb h hr ih => rw [ih, h.tenants_eq]
  | created hp hb h hr ih => rw [ih, h.tenants_eq]

end SuppliesAll

theorem Maintains.failures_eq {op : Operator} {r r' : PassResult} {body : Json}
    {c d : MemoryCluster} (h : Maintains op r body c r' d) : d.failures = c.failures :=
  h.lasts (.failures _) rfl

theorem Maintains.tenants_eq {op : Operator} {r r' : PassResult} {body : Json}
    {c d : MemoryCluster} (h : Maintains op r body c r' d) : d.tenants = c.tenants := by
  cases h with
  | invalid ht => rfl
  | unopened ht h => exact h.tenants_eq
  | opened ht h => exact h.tenants_eq
  | supplied ht h hp => rw [hp.tenants_eq, h.tenants_eq]

theorem Maintains.name_eq {op : Operator} {r r' : PassResult} {body : Json} {c d : MemoryCluster}
    (h : Maintains op r body c r' d) : r'.name = r.name := by
  cases h with
  | supplied ht h hp =>
    simp only [PassResult.supplied]
    split <;> rfl
  | _ => rfl

theorem Reconciles.name_eq {op : Operator} {name : Json} {r : PassResult} {c d : MemoryCluster}
    (h : Reconciles op name c r d) : r.name = name := by
  cases h with
  | guarded hb hm hd hg h => exact h.name_eq
  | newlyGuarded hb hm hd hg h hr => exact hr.name_eq
  | _ => rfl

namespace Replaces

variable {name : String} {sent stored : Json} {c d : MemoryCluster} {e : Except Fault Json}

theorem failures_eq (h : Replaces name sent c e d) : d.failures = c.failures :=
  h.lasts (.failures _) rfl

theorem objects_eq (h : Replaces name sent c e d) : d.objects = c.objects := by
  cases h <;> rfl

theorem stored_eq (h : Replaces name sent c (.ok stored) d) :
    stored = sent.withVersion c.version := by
  cases h
  rfl

theorem refusal_eq (h : Replaces name sent c (.ok stored) d) : c.refusal name sent = none := by
  cases h with
  | taken h hc => exact h

theorem tenants_of_error {fault : Fault} (h : Replaces name sent c (.error fault) d) :
    d.tenants = c.tenants := by
  cases h
  rfl

theorem get?_of_ne (h : Replaces name sent c e d) {key : TenantKey} (hk : key ≠ .text name) :
    d.tenants.get? key = c.tenants.get? key := by
  cases h with
  | refused h => rfl
  | taken h hc =>
    simp only [MemoryCluster.replaced_tenants, MemoryCluster.tenantsWith]
    split
    · rw [Table.get?_erase, if_neg hk]
      rfl
    · rw [Table.get?_insert_ne hk.symm]
      rfl

/-- What is stored under the name afterwards is the body, if anything is. -/
theorem body_of_get? (h : Replaces name sent c (.ok stored) d) {kept : StoredTenant}
    (hk : d.tenants.get? (.text name) = some kept) : kept.body = stored := by
  cases h with
  | taken h hc =>
    simp only [MemoryCluster.replaced_tenants, MemoryCluster.tenantsWith] at hk
    split at hk
    · simp [Table.get?_erase] at hk
    · rw [Table.get?_insert_self, Option.some.injEq] at hk
      rw [← hk]

/-- A body that something keeps is stored, under the name by which the tenant came in. -/
theorem get?_self (h : Replaces name sent c (.ok stored) d)
    (hs : MemoryCluster.isReleased (.ofOption (stored.get? "metadata")) = false) :
    ∃ current, c.tenants.get? (.text name) = some current ∧
      d.tenants.get? (.text name) = some ⟨current.name, stored⟩ := by
  cases h with
  | taken h hc =>
    refine ⟨_, hc, ?_⟩
    rw [MemoryCluster.replaced_tenants, MemoryCluster.tenantsWith, hs, if_neg Bool.false_ne_true,
      Table.get?_insert_self]

end Replaces

/-! ## The jobs do what the relations say -/

theorem supply_supplies (m : Manifest) (w : World MemoryCluster) :
    Supplies m w.cluster (m.supply.run w).1 (m.supply.run w).2.cluster := by
  have hread : (Job.call (ApiServer.read m.key.kind m.key.name m.key.namespaceName)).run w =
      (match w.cluster.failureOf (.reading m.key) with
        | some fault => .error fault
        | none => .ok ((w.cluster.objects.get? m.key).map Manifest.object),
        { w with cluster := w.cluster.noting (.reading m.key) }) :=
    congrArg (fun out => (out.1, { w with cluster := out.2 })) (w.cluster.run_read _ _ _)
  rw [Manifest.supply, Task.run_bind, hread]
  cases hf : w.cluster.failureOf (.reading m.key) with
  | some fault => exact .unread hf
  | none =>
    cases hm : w.cluster.objects.get? m.key with
    | some found => exact .present hf hm
    | none =>
      simp only [Option.map_none, Manifest.create, Task.run_bind, Job.run_info, Task.run_rescue,
        Job.run_call, World.cluster_log]
      rw [show (ApiServer.create m.key.kind m).run (w.cluster.noting (.reading m.key)) = _ from
        (w.cluster.noting (.reading m.key)).run_create m]
      simp only [MemoryCluster.failureOf_noting, MemoryCluster.noting_objects, hm]
      cases hc : w.cluster.failureOf (.creating m.key) with
      | some fault => exact .uncreated hf hm hc
      | none => exact .created hf hm hc

theorem supplyComponents_suppliesAll (s : Settings) (name : String) (t : Declaration) (ns : String)
    (ps : List Component) (w : World MemoryCluster) :
    SuppliesAll s t ns ps w.cluster (supplyComponents s name t ns ps w).1
      (supplyComponents s name t ns ps w).2.cluster := by
  induction ps generalizing w with
  | nil => exact .done
  | cons p rest ih =>
    rw [supplyComponents]
    cases hp : p.isNeeded t with
    | false => exact .skipped hp (ih (w.log _ _ _))
    | true =>
      simp only [if_true, supplyComponent, Task.run_bind, Task.run_ofExcept]
      cases hb : p.build s t (some ns) with
      | error fault => exact .unbuilt hp hb
      | ok child =>
        have hs := supply_supplies child.manifest w
        dsimp only
        rcases hr : child.manifest.supply.run w with ⟨_ | _ | _, w'⟩
        · rw [hr] at hs
          exact .failed hp hb hs
        · rw [hr] at hs
          exact .created hp hb hs (ih w')
        · rw [hr] at hs
          exact .present hp hb hs (ih w')

theorem replaceTenant_replaces {body : Json} {m : Metadata} (h : metadataOf body = .ok m)
    (c : MemoryCluster) :
    Replaces m.name body c ((ApiServer.replaceTenant body).run c).1
      ((ApiServer.replaceTenant body).run c).2 := by
  rw [show (ApiServer.replaceTenant body).run c = _ from c.run_replaceTenant h]
  cases hr : c.refusal m.name body with
  | some fault => exact .refused hr
  | none =>
    cases hc : c.tenants.get? (.text m.name) with
    | some current => exact .taken hr hc
    | none =>
      simp only [MemoryCluster.refusal, hc] at hr
      cases hf : c.failureOf (.replacingTenant m.name) <;> simp [hf] at hr

theorem guardTenant_replaces {body : Json} {m : Metadata} (h : metadataOf body = .ok m)
    {op : Operator} (hg : m.finalizers.contains op.guard = false) (w : World MemoryCluster) :
    Replaces m.name (op.guardedForm body m) w.cluster ((op.guardTenant body).run w).1
      ((op.guardTenant body).run w).2.cluster := by
  have hs := replaceTenant_replaces (op.metadataOf_guardedForm h) w.cluster
  obtain ⟨fields, md, rfl, hmd, ha⟩ := metadataOf_eq_ok.1 h
  have hany : (m.finalizers.map Json.str).any (·.isText op.guard) = false := by
    rw [← hg, List.any_map, List.contains_eq_any_beq]
    congr 1
    funext f
    simp [Json.isText, Bool.beq_eq_decide_eq, eq_comm]
  have happ : m.finalizers.map Json.str ++ [.str op.guard] =
      (m.finalizers ++ [op.guard]).map .str := by simp
  simp only [Operator.guardTenant, Task.run_bind, Task.run_ofExcept, Json.entry, hmd,
    get?_name_of_accepted ha, finalizersIn_of_accepted ha, hany, Bool.false_eq_true, if_false,
    Job.run_info, Job.run_call, World.cluster_log, happ]
  exact hs

theorem run_closeNamespace (s : Settings) (id : String) (w : World MemoryCluster) :
    ∃ journal, (closeNamespace s id).run w =
      match w.cluster.failureOf (.deleting (Names.spaceKey s id)) with
      | some fault => (.error fault, ⟨w.cluster.noting (.deleting (Names.spaceKey s id)), journal⟩)
      | none =>
        (.ok (w.cluster.objects.get? (Names.spaceKey s id)).isSome,
          ⟨(w.cluster.noting (.deleting (Names.spaceKey s id))).emptied (Names.spaceKey s id),
            journal⟩) := by
  have hdelete : (Job.call (ApiServer.delete .namespaceKind (Names.space s id) none)).run w =
      match w.cluster.failureOf (.deleting (Names.spaceKey s id)) with
      | some fault => (.error fault, ⟨w.cluster.noting (.deleting (Names.spaceKey s id)), w.journal⟩)
      | none =>
        (.ok (w.cluster.objects.get? (Names.spaceKey s id)).isSome,
          ⟨(w.cluster.noting (.deleting (Names.spaceKey s id))).emptied (Names.spaceKey s id),
            w.journal⟩) := by
    rw [Job.run_call, show (ApiServer.delete .namespaceKind (Names.space s id) none).run w.cluster
      = _ from w.cluster.run_delete _ _ _, Names.spaceKey]
    cases w.cluster.failureOf (.deleting ⟨.namespaceKind, none, Names.space s id⟩) <;> rfl
  simp only [closeNamespace, Task.run_bind, hdelete]
  cases w.cluster.failureOf (.deleting (Names.spaceKey s id)) with
  | some fault => exact ⟨_, rfl⟩
  | none => cases (w.cluster.objects.get? (Names.spaceKey s id)).isSome <;> exact ⟨_, rfl⟩

theorem cleanUp_cleansUp {body : Json} {m : Metadata} (h : metadataOf body = .ok m)
    (op : Operator) (w : World MemoryCluster) :
    CleansUp op body m w.cluster ((op.cleanUp body).run w).1 ((op.cleanUp body).run w).2.cluster := by
  have hm := op.metadataOf_releasedForm h
  obtain ⟨fields, md, rfl, hmd, ha⟩ := metadataOf_eq_ok.1 h
  have hfil : (m.finalizers.map Json.str).filter (fun f => !f.isText op.guard) =
      (m.finalizers.filter (· != op.guard)).map .str := by
    rw [List.filter_map]
    congr 2
  obtain ⟨journal, hclose⟩ := run_closeNamespace op.settings m.name
    (w.log .guard .info ("Tenant " ++ m.name ++ ": finalizing"))
  simp only [Operator.cleanUp, Task.run_bind, Task.run_ofExcept, Json.entry, hmd,
    get?_name_of_accepted ha, finalizersIn_of_accepted ha, Json.plain, Job.run_info, hfil, hclose,
    World.cluster_log]
  cases hf : w.cluster.failureOf (.deleting (Names.spaceKey op.settings m.name)) with
  | some fault => exact .undeleted hf
  | none =>
    refine .deleted hf ?_
    have hs := replaceTenant_replaces hm
      ((w.cluster.noting (.deleting (Names.spaceKey op.settings m.name))).emptied
        (Names.spaceKey op.settings m.name))
    simp only [Job.run_call, show Operator.replaceFinalizers (.obj fields)
      ((m.finalizers.filter (· != op.guard)).map .str) = op.releasedForm (.obj fields) m from rfl]
    generalize ((ApiServer.replaceTenant (op.releasedForm (.obj fields) m) :
      Task MemoryCluster Json).run _) = out at hs ⊢
    obtain ⟨_ | stored, d⟩ := out
    · exact hs
    · exact hs

/-! ## Whole passes -/

theorem run_openNamespace (s : Settings) (t : Declaration) (w : World MemoryCluster) :
    (openNamespace s t).run w =
      (((Child.space s t).manifest.supply.run w).1.map (decide <| · = .created),
        ((Child.space s t).manifest.supply.run w).2) := by
  rw [openNamespace, Task.run_bind]
  rcases (Child.space s t).manifest.supply.run w with ⟨_ | _, w'⟩ <;> rfl

theorem supplyAll_suppliesAll (op : Operator) (r : PassResult) (t : Declaration)
    (w : World MemoryCluster) :
    ∃ p, SuppliesAll op.settings t (Names.space op.settings t.identifier) Component.all w.cluster p
        (op.supplyAll r t w).2.cluster ∧ (op.supplyAll r t w).1 = r.supplied p := by
  have hp := supplyComponents_suppliesAll op.settings r.label t
    (Names.space op.settings t.identifier) Component.all w
  rw [Operator.supplyAll]
  generalize supplyComponents op.settings r.label t (Names.space op.settings t.identifier)
    Component.all w = out at hp ⊢
  obtain ⟨p, w'⟩ := out
  refine ⟨p, ?_⟩
  dsimp only
  cases hf : p.fault with
  | none => exact ⟨hp, by rw [PassResult.supplied, hf]⟩
  | some fault => exact ⟨hp, by rw [PassResult.supplied, hf]; rfl⟩

theorem maintain_maintains (op : Operator) (r : PassResult) (body : Json)
    (w : World MemoryCluster) :
    Maintains op r body w.cluster (op.maintain r body w).1 (op.maintain r body w).2.cluster := by
  rw [Operator.maintain]
  cases ht : Declaration.parse body with
  | error fault => exact .invalid ht
  | ok t =>
    dsimp only
    rw [run_openNamespace]
    generalize hw : World.log w .pass .info _ = w₁
    have hc : w₁.cluster = w.cluster := by rw [← hw, World.cluster_log]
    have hs := supply_supplies (Child.space op.settings t).manifest w₁
    rw [hc] at hs
    generalize (Child.space op.settings t).manifest.supply.run w₁ = out at hs ⊢
    obtain ⟨_ | _ | _, w₂⟩ := out
    · exact .unopened ht hs
    · exact .opened ht hs
    · obtain ⟨p, hp, hr⟩ := supplyAll_suppliesAll op
        { r with body := body.toOption, declaration := some t } t w₂
      have h := Maintains.supplied (r := r) ht hs hp
      rw [← hr] at h
      exact h

theorem reconcileBody_reconciles (op : Operator) {name body : Json} {c : MemoryCluster}
    (hb : Finds c name body) {w : World MemoryCluster}
    (hw : c.noting (.readingTenant name) = w.cluster) :
    Reconciles op name c (op.reconcileBody (.start name) body w).1
      (op.reconcileBody (.start name) body w).2.cluster := by
  simp only [Operator.reconcileBody, op.stage_eq]
  cases hm : metadataOf body with
  | error fault =>
    have h : Reconciles op name c _ _ := .unstaged hb hm
    rw [hw] at h
    exact h
  | ok m =>
    cases hd : m.isMarked <;> cases hg : m.finalizers.contains op.guard
    · have h := guardTenant_replaces hm hg w
      simp only [Except.map, hd, hg, Stage.of]
      generalize (op.guardTenant body).run w = out at h ⊢
      obtain ⟨_ | guarded, w'⟩ := out
      · exact .unguarded hb hm hd hg (hw ▸ h)
      · exact .newlyGuarded hb hm hd hg (hw ▸ h) (maintain_maintains op (.start name) guarded w')
    · simp only [Except.map, hd, hg, Stage.of]
      exact .guarded hb hm hd hg (hw ▸ maintain_maintains op (.start name) body w)
    · have h : Reconciles op name c _ _ := .released hb hm hd hg
      rw [hw] at h
      simp only [Except.map, hd, hg, Stage.of]
      exact h
    · have h := cleanUp_cleansUp hm op w
      simp only [Except.map, hd, hg, Stage.of]
      generalize (op.cleanUp body).run w = out at h ⊢
      obtain ⟨_ | _, w'⟩ := out
      · exact .uncleaned hb hm hd hg (hw ▸ h)
      · exact .cleaned hb hm hd hg (hw ▸ h)

theorem run_readTenant_call (name : Json) (w : World MemoryCluster) :
    (Job.call (ApiServer.readTenant name)).run w =
      (match w.cluster.failureOf (.readingTenant name) with
        | some fault => .error fault
        | none =>
          (TenantKey.of name).map fun key => (w.cluster.tenants.get? key).map StoredTenant.body,
        ⟨w.cluster.noting (.readingTenant name), w.journal⟩) :=
  congrArg (fun out => (out.1, { w with cluster := out.2 })) (w.cluster.run_readTenant name)

theorem reconcile_reconciles (op : Operator) (name : Json) (w : World MemoryCluster) :
    Reconciles op name w.cluster (op.reconcile name w).1 (op.reconcile name w).2.cluster := by
  simp only [Operator.reconcile, run_readTenant_call]
  cases hf : w.cluster.failureOf (.readingTenant name) with
  | some fault => exact .unread hf
  | none =>
    cases hk : TenantKey.of name with
    | error fault => exact .unnamed hf hk
    | ok key =>
      cases ht : w.cluster.tenants.get? key with
      | none =>
        simp only [Except.map, ht]
        exact .absent hf hk ht
      | some stored =>
        simp only [Except.map, ht]
        exact reconcileBody_reconciles op ⟨hf, key, stored, hk, ht, rfl⟩ rfl

/-! ## Passes for stored tenants -/

/-- What a pass can come to for a tenant that is stored with these metadata. -/
inductive Pursues (op : Operator) (n : String) (body : Json) (m : Metadata) (c : MemoryCluster) :
    PassResult → MemoryCluster → Prop where
  | unread {fault : Fault} (hf : c.failureOf (.readingTenant (.str n)) = some fault) :
    Pursues op n body m c ((PassResult.start (.str n)).aborted fault)
      (c.noting (.readingTenant (.str n)))
  | released (hf : c.failureOf (.readingTenant (.str n)) = none) (hd : m.isMarked = true)
    (hg : m.finalizers.contains op.guard = false) :
    Pursues op n body m c (.start (.str n)) (c.noting (.readingTenant (.str n)))
  | uncleaned {fault : Fault} {d : MemoryCluster}
    (hf : c.failureOf (.readingTenant (.str n)) = none) (hd : m.isMarked = true)
    (hg : m.finalizers.contains op.guard = true)
    (h : CleansUp op body m (c.noting (.readingTenant (.str n))) (.error fault) d) :
    Pursues op n body m c ((PassResult.start (.str n)).aborted fault) d
  | cleaned {stored : Json} {d : MemoryCluster}
    (hf : c.failureOf (.readingTenant (.str n)) = none) (hd : m.isMarked = true)
    (hg : m.finalizers.contains op.guard = true)
    (h : CleansUp op body m (c.noting (.readingTenant (.str n))) (.ok stored) d) :
    Pursues op n body m c (.start (.str n)) d
  | guarded {r : PassResult} {d : MemoryCluster}
    (hf : c.failureOf (.readingTenant (.str n)) = none) (hd : m.isMarked = false)
    (hg : m.finalizers.contains op.guard = true)
    (h : Maintains op (.start (.str n)) body (c.noting (.readingTenant (.str n))) r d) :
    Pursues op n body m c r d
  | unguarded {fault : Fault} {d : MemoryCluster}
    (hf : c.failureOf (.readingTenant (.str n)) = none) (hd : m.isMarked = false)
    (hg : m.finalizers.contains op.guard = false)
    (h : Replaces m.name (op.guardedForm body m) (c.noting (.readingTenant (.str n)))
      (.error fault) d) :
    Pursues op n body m c ({ PassResult.start (.str n) with body := some body }.aborted fault) d
  | newlyGuarded {stored : Json} {r : PassResult} {d e : MemoryCluster}
    (hf : c.failureOf (.readingTenant (.str n)) = none) (hd : m.isMarked = false)
    (hg : m.finalizers.contains op.guard = false)
    (h : Replaces m.name (op.guardedForm body m) (c.noting (.readingTenant (.str n)))
      (.ok stored) d)
    (hr : Maintains op (.start (.str n)) stored d r e) : Pursues op n body m c r e

theorem Finds.exists_kept {c : MemoryCluster} {n : String} {found : Json}
    (h : Finds c (.str n) found) :
    ∃ kept, c.tenants.get? (.text n) = some kept ∧ kept.body = found := by
  obtain ⟨-, key, kept, hkey, hk, rfl⟩ := h
  obtain rfl := Except.ok.inj ((TenantKey.of_str n).symm.trans hkey)
  exact ⟨kept, hk, rfl⟩

theorem Finds.body_eq {c : MemoryCluster} {n : String} {kept : StoredTenant} {found : Json}
    (h : Finds c (.str n) found) (hk : c.tenants.get? (.text n) = some kept) :
    found = kept.body := by
  obtain ⟨kept', hk', rfl⟩ := h.exists_kept
  rw [Option.some.inj (hk.symm.trans hk')]

theorem Reconciles.pursues {op : Operator} {n : String} {c d : MemoryCluster} {r : PassResult}
    (hr : Reconciles op (.str n) c r d) {kept : StoredTenant} {m : Metadata}
    (hk : c.tenants.get? (.text n) = some kept) (hm : metadataOf kept.body = .ok m) :
    Pursues op n kept.body m c r d := by
  have hfound : ∀ {found : Json} {m' : Metadata}, Finds c (.str n) found →
      metadataOf found = .ok m' → found = kept.body ∧ m' = m := by
    intro found m' hb hm'
    obtain rfl := hb.body_eq hk
    exact ⟨rfl, Except.ok.inj (hm'.symm.trans hm)⟩
  cases hr with
  | unread hf => exact .unread hf
  | unnamed hf hkey => exact absurd (hkey.symm.trans (TenantKey.of_str n)) (by simp)
  | absent hf hkey ht =>
    obtain rfl := Except.ok.inj ((TenantKey.of_str n).symm.trans hkey)
    exact absurd (ht.symm.trans hk) (by simp)
  | unstaged hb hm' =>
    obtain rfl := hb.body_eq hk
    exact absurd (hm'.symm.trans hm) (by simp)
  | released hb hm' hd hg =>
    obtain ⟨rfl, rfl⟩ := hfound hb hm'
    exact .released hb.answered hd hg
  | uncleaned hb hm' hd hg h =>
    obtain ⟨rfl, rfl⟩ := hfound hb hm'
    exact .uncleaned hb.answered hd hg h
  | cleaned hb hm' hd hg h =>
    obtain ⟨rfl, rfl⟩ := hfound hb hm'
    exact .cleaned hb.answered hd hg h
  | guarded hb hm' hd hg h =>
    obtain ⟨rfl, rfl⟩ := hfound hb hm'
    exact .guarded hb.answered hd hg h
  | unguarded hb hm' hd hg h =>
    obtain ⟨rfl, rfl⟩ := hfound hb hm'
    exact .unguarded hb.answered hd hg h
  | newlyGuarded hb hm' hd hg h hr =>
    obtain ⟨rfl, rfl⟩ := hfound hb hm'
    exact .newlyGuarded hb.answered hd hg h hr

/-- A pass goes on with a guarded tenant if it can read it. -/
theorem Pursues.maintains {op : Operator} {n : String} {body : Json} {m : Metadata}
    {c d : MemoryCluster} {r : PassResult} (h : Pursues op n body m c r d)
    (hf : c.failureOf (.readingTenant (.str n)) = none) (hd : m.isMarked = false)
    (hg : m.finalizers.contains op.guard = true) :
    Maintains op (.start (.str n)) body (c.noting (.readingTenant (.str n))) r d := by
  cases h with
  | unread hf' => exact absurd (hf'.symm.trans hf) (by simp)
  | released _ hd' => exact absurd (hd'.symm.trans hd) (by simp)
  | uncleaned _ hd' => exact absurd (hd'.symm.trans hd) (by simp)
  | cleaned _ hd' => exact absurd (hd'.symm.trans hd) (by simp)
  | guarded _ _ _ h => exact h
  | unguarded _ _ hg' => exact absurd (hg'.symm.trans hg) (by simp)
  | newlyGuarded _ _ hg' => exact absurd (hg'.symm.trans hg) (by simp)

end MoodleTenancy
