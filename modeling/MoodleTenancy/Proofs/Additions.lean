import MoodleTenancy.Proofs.PassInMemory

/-!
# What a pass adds

A pass for a tenant that is not being deleted leaves every object as it is, and what it adds follows
from the tenant's declaration.

* `Manifest.IsOf`: a manifest is that of a tenant's namespace or of a component that it needs.
* `Declaration.renewed`: a declaration with other finalizers and another version.
* `Component.keyFor`: the key under which the object of a tenant's component is found.
* `Adds`: a cluster has the objects of another one, and others only of some sort.
* `Supplies.adds`, `SuppliesAll.adds`, `Maintains.adds`: what is added.
-/

namespace MoodleTenancy
set_option autoImplicit false

def Manifest.IsOf (s : Settings) (t : Declaration) (m : Manifest) : Prop :=
  m = (Child.space s t).manifest ∨
    ∃ p child, Component.isNeeded p t = true ∧
      p.build s t (some (Names.space s t.identifier)) = .ok child ∧ m = child.manifest

def Declaration.renewed (t : Declaration) (finalizers : List String) (version : Option String) :
    Declaration :=
  { t with metadata := { t.metadata with finalizers := finalizers, resourceVersion := version } }

section Renewed

variable (s : Settings) (t : Declaration) (finalizers : List String) (version : Option String)

/-- The objects of a tenant have nothing to do with its finalizers and its version. -/
theorem Component.build_renewed (ns : Option String) (p : Component) :
    p.build s (t.renewed finalizers version) ns = p.build s t ns := by
  have howner : Owner.of (t.renewed finalizers version) = Owner.of t := rfl
  have hchild : ∀ o, p.child s (t.renewed finalizers version) o ns = p.child s t o ns := by
    intro o
    cases p <;> rfl
  rw [build, build, howner, funext hchild]

theorem Manifest.isOf_renewed :
    Manifest.IsOf s (t.renewed finalizers version) = Manifest.IsOf s t := by
  funext m
  simp only [Manifest.IsOf, Component.build_renewed]
  rfl

end Renewed

def Component.keyFor (s : Settings) (t : Declaration) (p : Component) : ObjectKey :=
  ⟨p.kind, some (Names.space s t.identifier), p.childName t⟩

/-- The second cluster has the objects of the first one; `new` holds of the others. -/
structure Adds (new : Manifest → Prop) (c d : MemoryCluster) : Prop where
  keeps {k : ObjectKey} {m : Manifest} :
    c.objects.get? k = some m → d.objects.get? k = some m
  new {k : ObjectKey} {m : Manifest} :
    c.objects.get? k = none → d.objects.get? k = some m → new m ∧ m.key = k

namespace Adds

variable {new : Manifest → Prop} {c d e : MemoryCluster}

theorem of_eq (h : d.objects = c.objects) : Adds new c d where
  keeps hc := by rw [h, hc]
  new hc hd := by simp [h, hc] at hd

theorem trans (h : Adds new c d) (h' : Adds new d e) : Adds new c e where
  keeps hc := h'.keeps (h.keeps hc)
  new {k m} hc he := by
    cases hd : d.objects.get? k with
    | none => exact h'.new hd he
    | some m' =>
      obtain rfl : m' = m := Option.some.inj ((h'.keeps hd).symm.trans he)
      exact h.new hc hd

theorem mono {other : Manifest → Prop} (h : Adds new c d) (hn : ∀ m, new m → other m) :
    Adds other c d where
  keeps := h.keeps
  new hc hd := ⟨hn _ (h.new hc hd).1, (h.new hc hd).2⟩

theorem isSome (h : Adds new c d) {k : ObjectKey} (hc : (c.objects.get? k).isSome = true) :
    (d.objects.get? k).isSome = true := by
  obtain ⟨m, hm⟩ := Option.isSome_iff_exists.1 hc
  rw [h.keeps hm]
  rfl

end Adds

theorem Supplies.adds {m : Manifest} {c d : MemoryCluster} {e : Except Fault Supplied}
    (h : Supplies m c e d) : Adds (· = m) c d := by
  cases h with
  | created hf hm hc =>
    constructor
    · intro k found hk
      have hne : m.key ≠ k := by
        rintro rfl
        rw [hm] at hk
        exact absurd hk (by simp)
      rw [MemoryCluster.holding_objects, Table.get?_insert_ne hne]
      exact hk
    · intro k found hk hnew
      rw [MemoryCluster.holding_objects, Table.get?_insert] at hnew
      split at hnew
      · rename_i he
        exact ⟨(Option.some.inj hnew).symm, by rw [← Option.some.inj hnew, he]⟩
      · exact absurd (hk.symm.trans hnew) (by simp)
  | _ => exact .of_eq rfl

theorem SuppliesAll.adds {s : Settings} {t : Declaration} {ps : List Component}
    {c d : MemoryCluster} {r : Progress}
    (h : SuppliesAll s t (Names.space s t.identifier) ps c r d) : Adds (Manifest.IsOf s t) c d := by
  have hchild : ∀ {p : Component} {child : Child} {c d : MemoryCluster}
      {e : Except Fault Supplied}, p.isNeeded t = true →
      p.build s t (some (Names.space s t.identifier)) = .ok child →
      Supplies child.manifest c e d → Adds (Manifest.IsOf s t) c d := by
    intro p child c d e hp hb h
    refine h.adds.mono ?_
    rintro m rfl
    exact .inr ⟨p, child, hp, hb, rfl⟩
  induction h with
  | done => exact .of_eq rfl
  | skipped hp h ih => exact ih
  | unbuilt hp hb => exact .of_eq rfl
  | failed hp hb h => exact hchild hp hb h
  | present hp hb h hr ih => exact (hchild hp hb h).trans ih
  | created hp hb h hr ih => exact (hchild hp hb h).trans ih

theorem Maintains.adds {op : Operator} {r r' : PassResult} {body : Json} {c d : MemoryCluster}
    (h : Maintains op r body c r' d) {t : Declaration} (ht : Declaration.parse body = .ok t) :
    Adds (Manifest.IsOf op.settings t) c d := by
  have hspace : ∀ {u : Declaration} {e : Except Fault Supplied} {d : MemoryCluster},
      Declaration.parse body = .ok u → Supplies (Child.space op.settings u).manifest c e d →
      Adds (Manifest.IsOf op.settings t) c d := by
    intro u e d hu h
    obtain rfl := Except.ok.inj (ht.symm.trans hu)
    refine h.adds.mono ?_
    rintro m rfl
    exact .inl rfl
  cases h with
  | invalid ht' => exact .of_eq rfl
  | unopened hu h => exact hspace hu h
  | opened hu h => exact hspace hu h
  | supplied hu h hp =>
    have hs := hspace hu h
    obtain rfl := Except.ok.inj (ht.symm.trans hu)
    exact hs.trans hp.adds

end MoodleTenancy
