import MoodleTenancy.Proofs.Alike
import MoodleTenancy.Proofs.Ownership

/-!
# What a pass depends on

A pass for a tenant comes to the same on two clusters that agree on all that belongs to the tenant
and on the failures that calls are to meet. The version that the tenant gets is the only thing that
may differ.

* `Agree`: two clusters agree on what belongs to a tenant.
* `Operator.Quotes`, `Operator.QuotesFor`: a pass ends with a report that quotes a version.
* `Supplies.agree`, `Replaces.agree` and their kin: parts of passes on clusters that agree.
* `Operator.reconcile_agree`: passes on clusters that agree.
-/

namespace MoodleTenancy
set_option autoImplicit false

/-- Nothing is stored, or related bodies under the same name. -/
abbrev SameTenant (R : Json → Json → Prop) : Option StoredTenant → Option StoredTenant → Prop :=
  Option.Rel fun t t' => t'.name = t.name ∧ R t.body t'.body

theorem SameTenant.refl {R : Json → Json → Prop} (hR : ∀ b, R b b) (t : Option StoredTenant) :
    SameTenant R t t := by
  cases t with
  | none => exact .none
  | some kept => exact .some ⟨rfl, hR _⟩

theorem SameTenant.symm {R : Json → Json → Prop} (hR : ∀ {b b'}, R b b' → R b' b)
    {t t' : Option StoredTenant} (h : SameTenant R t t') : SameTenant R t' t := by
  cases h with
  | none => exact .none
  | some hk => exact .some ⟨hk.1.symm, hR hk.2⟩

/-- Two clusters have the same failures and the same objects of a tenant, and bodies of the tenant
that are related. -/
structure Agree (R : Json → Json → Prop) (s : Settings) (n : String) (c c' : MemoryCluster) :
    Prop where
  failures : c'.failures = c.failures
  objects {k : ObjectKey} : k.BelongsTo s n → c'.objects.get? k = c.objects.get? k
  tenant : SameTenant R (c.tenants.get? (.text n)) (c'.tenants.get? (.text n))

namespace Agree

variable {R R' : Json → Json → Prop} {s : Settings} {n : String} {c c' d d' : MemoryCluster}

theorem failureOf_eq (h : Agree R s n c c') (call : Call) : c'.failureOf call = c.failureOf call := by
  rw [MemoryCluster.failureOf, MemoryCluster.failureOf, h.failures]

theorem tenant_none (h : Agree R s n c c') (hc : c.tenants.get? (.text n) = none) :
    c'.tenants.get? (.text n) = none := by
  have ht := h.tenant
  rw [hc] at ht
  generalize c'.tenants.get? (.text n) = t' at ht ⊢
  cases ht
  rfl

theorem tenant_some (h : Agree R s n c c') {kept : StoredTenant}
    (hc : c.tenants.get? (.text n) = some kept) :
    ∃ kept', c'.tenants.get? (.text n) = some kept' ∧ kept'.name = kept.name ∧
      R kept.body kept'.body := by
  have ht := h.tenant
  rw [hc] at ht
  generalize c'.tenants.get? (.text n) = t' at ht ⊢
  cases ht with
  | some hk => exact ⟨_, rfl, hk⟩

theorem tenant_eq (h : Agree Eq s n c c') :
    c'.tenants.get? (.text n) = c.tenants.get? (.text n) := by
  cases hc : c.tenants.get? (.text n) with
  | none => exact h.tenant_none hc
  | some kept =>
    obtain ⟨⟨name, body⟩, hc', hname, hbody⟩ := h.tenant_some hc
    obtain ⟨name', body'⟩ := kept
    rw [hc', Option.some.injEq, StoredTenant.mk.injEq]
    exact ⟨hname, hbody.symm⟩

theorem of_tenant_eq (hf : c'.failures = c.failures)
    (ho : ∀ {k : ObjectKey}, k.BelongsTo s n → c'.objects.get? k = c.objects.get? k)
    (ht : c'.tenants.get? (.text n) = c.tenants.get? (.text n)) : Agree Eq s n c c' where
  failures := hf
  objects := ho
  tenant := by
    rw [ht]
    exact .refl (fun _ => rfl) _

theorem refl (hR : ∀ b, R b b) (s : Settings) (n : String) (c : MemoryCluster) :
    Agree R s n c c :=
  ⟨rfl, fun _ => rfl, .refl hR _⟩

/-- Clusters that agree agree still after a change of each. -/
theorem square {S T : Json → Json → Prop} (h : Agree R s n c c') (hd : Agree S s n c d)
    (hd' : Agree S s n c' d') (hT : ∀ {b b' x x'}, R b b' → S b x → S b' x' → T x x') :
    Agree T s n d d' where
  failures := by rw [hd'.failures, h.failures, hd.failures]
  objects hk := by rw [hd'.objects hk, h.objects hk, hd.objects hk]
  tenant := by
    cases hc : c.tenants.get? (.text n) with
    | none =>
      rw [hd.tenant_none hc, hd'.tenant_none (h.tenant_none hc)]
      exact .none
    | some kept =>
      obtain ⟨kept', hc', hname, hbody⟩ := h.tenant_some hc
      obtain ⟨later, hlater, hlname, hlbody⟩ := hd.tenant_some hc
      obtain ⟨later', hlater', hlname', hlbody'⟩ := hd'.tenant_some hc'
      rw [hlater, hlater']
      exact .some ⟨by rw [hlname', hname, hlname], hT hbody hlbody hlbody'⟩

theorem mono (h : Agree R s n c c') (hR : ∀ b b', R b b' → R' b b') : Agree R' s n c c' where
  failures := h.failures
  objects := h.objects
  tenant := by
    have ht := h.tenant
    generalize c.tenants.get? (.text n) = t at ht ⊢
    generalize c'.tenants.get? (.text n) = t' at ht ⊢
    cases ht with
    | none => exact .none
    | some hk => exact .some ⟨hk.1, hR _ _ hk.2⟩

theorem alike (h : Agree Eq s n c c') : Agree Json.Alike s n c c' :=
  h.mono fun b _ he => he ▸ .refl b

theorem noting (h : Agree R s n c c') (call : Call) : Agree R s n (c.noting call) (c'.noting call) :=
  ⟨h.failures, h.objects, h.tenant⟩

theorem emptied (h : Agree R s n c c') :
    Agree R s n (c.emptied (Names.spaceKey s n)) (c'.emptied (Names.spaceKey s n)) where
  failures := by rw [c.emptied_failures, c'.emptied_failures, h.failures]
  objects hk := by rw [c.get?_emptied, c'.get?_emptied, h.objects (.inl rfl), h.objects hk]
  tenant := by
    rw [c.emptied_tenants, c'.emptied_tenants]
    exact h.tenant

theorem refusal_eq (h : Agree Eq s n c c') (sent : Json) :
    c'.refusal n sent = c.refusal n sent := by
  rw [MemoryCluster.refusal, MemoryCluster.refusal, h.failureOf_eq, h.tenant_eq]

end Agree

/-- Clusters that differ in what belongs to one tenant agree on another one. -/
theorem Spares.agree {s : Settings} {a b : String} {c d : MemoryCluster} (h : Spares s a c d)
    (hab : a ≠ b) : Agree Eq s b c d :=
  .of_tenant_eq h.failures (fun hk => h.objects fun ha => hab (ha.unique hk))
    (h.tenants fun he => hab (Key.Identity.text.inj he).symm)

/-! ## Supplying objects -/

/-- How an attempt to supply an object ends. -/
def MemoryCluster.supplyAnswer (c : MemoryCluster) (m : Manifest) : Except Fault Supplied :=
  match c.failureOf (.reading m.key), c.objects.get? m.key, c.failureOf (.creating m.key) with
  | some fault, _, _ => .error fault
  | none, some _, _ => .ok .present
  | none, none, some fault => .error fault
  | none, none, none => .ok .created

section Supplying

variable {R : Json → Json → Prop} {s : Settings} {n : String} {c c' d d' : MemoryCluster}

theorem Supplies.answer_eq {m : Manifest} {e : Except Fault Supplied} (h : Supplies m c e d) :
    e = c.supplyAnswer m := by
  cases h with
  | unread hf => simp only [MemoryCluster.supplyAnswer, hf]
  | present hf hm => simp only [MemoryCluster.supplyAnswer, hf, hm]
  | uncreated hf hm hc => simp only [MemoryCluster.supplyAnswer, hf, hm, hc]
  | created hf hm hc => simp only [MemoryCluster.supplyAnswer, hf, hm, hc]

theorem Supplies.objects_of_created {m : Manifest} (h : Supplies m c (.ok .created) d) :
    d.objects = c.objects.insert m.key m := by
  cases h
  rfl

theorem Supplies.agree {m : Manifest} {e e' : Except Fault Supplied} (h : Supplies m c e d)
    (h' : Supplies m c' e' d') (ha : Agree R s n c c') (hm : m.key.BelongsTo s n) :
    e' = e ∧ Agree R s n d d' := by
  obtain rfl : e' = e := by
    rw [h.answer_eq, h'.answer_eq, MemoryCluster.supplyAnswer, MemoryCluster.supplyAnswer,
      ha.failureOf_eq, ha.failureOf_eq, ha.objects hm]
  refine ⟨rfl, ?_, ?_, ?_⟩
  · rw [h.failures_eq, h'.failures_eq, ha.failures]
  · intro k hk
    cases e' with
    | error fault => rw [h.objects_of_error, h'.objects_of_error, ha.objects hk]
    | ok x =>
      cases x with
      | present => rw [h.objects_of_present, h'.objects_of_present, ha.objects hk]
      | created =>
        rw [h.objects_of_created, h'.objects_of_created, Table.get?_insert, Table.get?_insert,
          ha.objects hk]
  · rw [h.tenants_eq, h'.tenants_eq]
    exact ha.tenant

namespace SuppliesAll

variable {t : Declaration} {ns : String} {p : Component} {rest ps : List Component}
  {r r' : Progress}

theorem of_renewed {fs : List String} {v : Option String}
    (h : SuppliesAll s (t.renewed fs v) ns ps c r d) : SuppliesAll s t ns ps c r d := by
  induction h with
  | done => exact .done
  | skipped hp h ih => exact .skipped hp ih
  | unbuilt hp hb =>
    rw [Component.build_renewed] at hb
    exact .unbuilt hp hb
  | failed hp hb h =>
    rw [Component.build_renewed] at hb
    exact .failed hp hb h
  | present hp hb h hr ih =>
    rw [Component.build_renewed] at hb
    exact .present hp hb h ih
  | created hp hb h hr ih =>
    rw [Component.build_renewed] at hb
    exact .created hp hb h ih

theorem of_not_needed (h : SuppliesAll s t ns (p :: rest) c r d) (hp : p.isNeeded t = false) :
    SuppliesAll s t ns rest c r d := by
  cases h with
  | skipped _ h => exact h
  | unbuilt hp' => exact absurd (hp.symm.trans hp') Bool.false_ne_true
  | failed hp' => exact absurd (hp.symm.trans hp') Bool.false_ne_true
  | present hp' => exact absurd (hp.symm.trans hp') Bool.false_ne_true
  | created hp' => exact absurd (hp.symm.trans hp') Bool.false_ne_true

theorem of_build_error (h : SuppliesAll s t ns (p :: rest) c r d) (hp : p.isNeeded t = true)
    {fault : Fault} (hb : p.build s t (some ns) = .error fault) :
    r = { fault := some fault } ∧ d = c := by
  cases h with
  | skipped hp' => exact absurd (hp'.symm.trans hp) Bool.false_ne_true
  | unbuilt _ hb' =>
    obtain rfl := Except.error.inj (hb.symm.trans hb')
    exact ⟨rfl, rfl⟩
  | failed _ hb' => exact absurd (hb.symm.trans hb') (by simp)
  | present _ hb' => exact absurd (hb.symm.trans hb') (by simp)
  | created _ hb' => exact absurd (hb.symm.trans hb') (by simp)

theorem of_build_ok (h : SuppliesAll s t ns (p :: rest) c r d) (hp : p.isNeeded t = true)
    {child : Child} (hb : p.build s t (some ns) = .ok child) :
    (∃ fault, Supplies child.manifest c (.error fault) d ∧ r = { fault := some fault }) ∨
      (∃ e, Supplies child.manifest c (.ok .present) e ∧ SuppliesAll s t ns rest e r d) ∨
      ∃ e later, Supplies child.manifest c (.ok .created) e ∧ SuppliesAll s t ns rest e later d ∧
        r = { later with created := child.label :: later.created } := by
  cases h with
  | skipped hp' => exact absurd (hp'.symm.trans hp) Bool.false_ne_true
  | unbuilt _ hb' => exact absurd (hb.symm.trans hb') (by simp)
  | failed _ hb' h =>
    obtain rfl := Except.ok.inj (hb.symm.trans hb')
    exact .inl ⟨_, h, rfl⟩
  | present _ hb' h hr =>
    obtain rfl := Except.ok.inj (hb.symm.trans hb')
    exact .inr (.inl ⟨_, h, hr⟩)
  | created _ hb' h hr =>
    obtain rfl := Except.ok.inj (hb.symm.trans hb')
    exact .inr (.inr ⟨_, _, h, hr, rfl⟩)

theorem agree (h : SuppliesAll s t (Names.space s n) ps c r d)
    (h' : SuppliesAll s t (Names.space s n) ps c' r' d') (ha : Agree R s n c c') :
    r' = r ∧ Agree R s n d d' := by
  induction h generalizing c' r' with
  | done =>
    cases h'
    exact ⟨rfl, ha⟩
  | skipped hp h ih => exact ih (h'.of_not_needed hp) ha
  | unbuilt hp hb =>
    obtain ⟨rfl, rfl⟩ := h'.of_build_error hp hb
    exact ⟨rfl, ha⟩
  | failed hp hb h =>
    have hkey := Component.belongsTo_of_build hb
    obtain ⟨fault, hs, rfl⟩ | ⟨e, hs, -⟩ | ⟨e, later, hs, -, -⟩ := h'.of_build_ok hp hb
    · obtain ⟨he, hd⟩ := h.agree hs ha hkey
      rw [Except.error.inj he]
      exact ⟨rfl, hd⟩
    · exact absurd (h.agree hs ha hkey).1 (by simp)
    · exact absurd (h.agree hs ha hkey).1 (by simp)
  | present hp hb h hr ih =>
    have hkey := Component.belongsTo_of_build hb
    obtain ⟨fault, hs, -⟩ | ⟨e, hs, hrest⟩ | ⟨e, later, hs, -, -⟩ := h'.of_build_ok hp hb
    · exact absurd (h.agree hs ha hkey).1 (by simp)
    · exact ih hrest (h.agree hs ha hkey).2
    · exact absurd (h.agree hs ha hkey).1 (by simp)
  | created hp hb h hr ih =>
    have hkey := Component.belongsTo_of_build hb
    obtain ⟨fault, hs, -⟩ | ⟨e, hs, -⟩ | ⟨e, later, hs, hrest, rfl⟩ := h'.of_build_ok hp hb
    · exact absurd (h.agree hs ha hkey).1 (by simp)
    · exact absurd (h.agree hs ha hkey).1 (by simp)
    · obtain ⟨rfl, hd⟩ := ih hrest (h.agree hs ha hkey).2
      exact ⟨rfl, hd⟩

end SuppliesAll

end Supplying

/-! ## Replacing and deleting -/

theorem isReleased_withVersion {body : Json} {m : Metadata} (hm : metadataOf body = .ok m)
    (v : Json) :
    MemoryCluster.isReleased (.ofOption ((body.withVersion v).get? "metadata")) =
      MemoryCluster.isReleased (.ofOption (body.get? "metadata")) := by
  have hd : (Key.text "resourceVersion").identity ≠ (Key.text "deletionTimestamp").identity := by
    decide
  have hf : (Key.text "resourceVersion").identity ≠ (Key.text "finalizers").identity := by decide
  obtain ⟨fields, md, rfl, hg, -⟩ := metadataOf_eq_ok.1 hm
  rw [Json.withVersion, Json.get?_metadata_setMetadata hg, Json.get?_obj, hg]
  simp only [MemoryCluster.isReleased, Json.ofOption, Option.getD_some, Json.get?_obj,
    Fields.get?_set_ne hd, Fields.get?_set_ne hf]

section Replacing

variable {s : Settings} {n : String} {c c' d d' : MemoryCluster} {e e' : Except Fault Json}

/-- Two answers to the same body are the same fault or bodies that differ in their versions. -/
def Answers (e e' : Except Fault Json) : Prop :=
  (∃ fault, e = .error fault ∧ e' = .error fault) ∨
    ∃ b b', e = .ok b ∧ e' = .ok b' ∧ b.Alike b'

theorem Replaces.agree {sent : Json} {m : Metadata} (hm : metadataOf sent = .ok m)
    (h : Replaces n sent c e d) (h' : Replaces n sent c' e' d') (ha : Agree Eq s n c c') :
    Answers e e' ∧ Agree Json.Alike s n d d' := by
  have hrefusal := ha.refusal_eq sent
  cases h with
  | refused hr =>
    cases h' with
    | refused hr' =>
      rw [hrefusal, hr, Option.some.injEq] at hr'
      exact ⟨.inl ⟨_, rfl, by rw [hr']⟩, (ha.noting _).alike⟩
    | taken hr' => exact absurd (hr.symm.trans (hrefusal.symm.trans hr')) (by simp)
  | @taken current hr hc =>
    cases h' with
    | refused hr' => exact absurd (hr'.symm.trans (hrefusal.trans hr)) (by simp)
    | @taken current' hr' hc' =>
      obtain rfl : current = current' := by
        rw [ha.tenant_eq, hc, Option.some.injEq] at hc'
        exact hc'
      have halike := Json.Alike.versions hm (toString c.nextVersion) (toString c'.nextVersion)
      refine ⟨.inr ⟨_, _, rfl, rfl, halike⟩, ha.failures, ha.objects, ?_⟩
      simp only [MemoryCluster.replaced_tenants, MemoryCluster.tenantsWith,
        isReleased_withVersion hm]
      split
      · rw [Table.get?_erase, Table.get?_erase, if_pos rfl, if_pos rfl]
        exact .none
      · rw [Table.get?_insert_self, Table.get?_insert_self]
        exact .some ⟨rfl, halike⟩

theorem CleansUp.agree {op : Operator} {body : Json} {m : Metadata} (hm : metadataOf body = .ok m)
    (h : CleansUp op body m c e d) (h' : CleansUp op body m c' e' d')
    (ha : Agree Eq op.settings m.name c c') :
    Answers e e' ∧ Agree Json.Alike op.settings m.name d d' := by
  have hfailure := ha.failureOf_eq (.deleting (Names.spaceKey op.settings m.name))
  cases h with
  | undeleted hf =>
    cases h' with
    | undeleted hf' =>
      rw [hfailure, hf, Option.some.injEq] at hf'
      exact ⟨.inl ⟨_, rfl, by rw [hf']⟩, (ha.noting _).alike⟩
    | deleted hf' => exact absurd (hf.symm.trans (hfailure.symm.trans hf')) (by simp)
  | deleted hf h =>
    cases h' with
    | undeleted hf' => exact absurd (hf'.symm.trans (hfailure.trans hf)) (by simp)
    | deleted hf' h' =>
      exact h.agree (op.metadataOf_releasedForm hm) h' (ha.noting _).emptied

end Replacing

/-! ## Passes -/

namespace Maintains

variable {R : Json → Json → Prop} {op : Operator} {n : String} {b b' : Json}
  {r r₁ r₁' : PassResult} {c c' d d' : MemoryCluster}

theorem of_invalid (h : Maintains op r b c r₁ d) {fault : Fault}
    (ht : Declaration.parse b = .error fault) :
    r₁ = { r with body := b.toOption }.aborted fault ∧ d = c := by
  cases h with
  | invalid ht' =>
    obtain rfl := Except.error.inj (ht.symm.trans ht')
    exact ⟨rfl, rfl⟩
  | unopened ht' => exact absurd (ht.symm.trans ht') (by simp)
  | opened ht' => exact absurd (ht.symm.trans ht') (by simp)
  | supplied ht' => exact absurd (ht.symm.trans ht') (by simp)

theorem of_valid (h : Maintains op r b c r₁ d) {t : Declaration}
    (ht : Declaration.parse b = .ok t) :
    (∃ fault, Supplies (Child.space op.settings t).manifest c (.error fault) d ∧
        r₁ = { r with body := b.toOption, declaration := some t }.aborted fault) ∨
      (Supplies (Child.space op.settings t).manifest c (.ok .created) d ∧
        r₁ = { r with body := b.toOption, declaration := some t }.opened op) ∨
      ∃ p e, Supplies (Child.space op.settings t).manifest c (.ok .present) e ∧
        SuppliesAll op.settings t (Names.space op.settings t.identifier) Component.all e p d ∧
        r₁ = { r with body := b.toOption, declaration := some t }.supplied p := by
  cases h with
  | invalid ht' => exact absurd (ht'.symm.trans ht) (by simp)
  | unopened ht' h =>
    obtain rfl := Except.ok.inj (ht.symm.trans ht')
    exact .inl ⟨_, h, rfl⟩
  | opened ht' h =>
    obtain rfl := Except.ok.inj (ht.symm.trans ht')
    exact .inr (.inl ⟨h, rfl⟩)
  | supplied ht' h hp =>
    obtain rfl := Except.ok.inj (ht.symm.trans ht')
    exact .inr (.inr ⟨_, _, h, hp, rfl⟩)

/-- From a guarded tenant on, passes come to the same. Only a report on a body without a spec may
quote the version. -/
theorem agree (h : Maintains op r b c r₁ d) (h' : Maintains op r b' c' r₁' d') (hb : b.Alike b')
    (hn : ∀ t, Declaration.parse b = .ok t → t.identifier = n)
    (ha : Agree R op.settings n c c') :
    r₁.Alike r₁' ∧ (b' = b ∨ (b.get? "spec").isSome = true → r₁'.fault = r₁.fault) ∧
      Agree R op.settings n d d' := by
  obtain ⟨t, t', ht, ht', hu⟩ | ⟨f, f', hf, hf', hff, hsame⟩ := hb.parse
  · obtain rfl := hn t ht
    obtain ⟨fs, v, rfl⟩ : ∃ fs v, t' = t.renewed fs v := ⟨_, _, Declaration.eq_renewed hu⟩
    have hu' : (some (t.renewed fs v)).map Declaration.unversioned =
        (some t).map Declaration.unversioned := congrArg some hu
    have hseen := PassResult.Alike.seen r hb.toOption hu'
    have hkey : (Child.space op.settings t).manifest.key.BelongsTo op.settings t.identifier :=
      .inl rfl
    obtain ⟨fault, hs, rfl⟩ | ⟨hs, rfl⟩ | ⟨p, e, hs, hp, rfl⟩ := h.of_valid ht
    · obtain ⟨fault', hs', rfl⟩ | ⟨hs', -⟩ | ⟨p', e', hs', -, -⟩ := h'.of_valid ht'
      · obtain ⟨he, hd⟩ := hs.agree hs' ha hkey
        obtain rfl := Except.error.inj he
        exact ⟨hseen.aborted (.refl _), fun _ => rfl, hd⟩
      · exact absurd (hs.agree hs' ha hkey).1 (by simp)
      · exact absurd (hs.agree hs' ha hkey).1 (by simp)
    · obtain ⟨fault', hs', -⟩ | ⟨hs', rfl⟩ | ⟨p', e', hs', -, -⟩ := h'.of_valid ht'
      · exact absurd (hs.agree hs' ha hkey).1 (by simp)
      · exact ⟨hseen.opened op, fun _ => rfl, (hs.agree hs' ha hkey).2⟩
      · exact absurd (hs.agree hs' ha hkey).1 (by simp)
    · obtain ⟨fault', hs', -⟩ | ⟨hs', -⟩ | ⟨p', e', hs', hp', rfl⟩ := h'.of_valid ht'
      · exact absurd (hs.agree hs' ha hkey).1 (by simp)
      · exact absurd (hs.agree hs' ha hkey).1 (by simp)
      · obtain ⟨rfl, hd⟩ := hp.agree hp'.of_renewed (hs.agree hs' ha hkey).2
        exact ⟨hseen.supplied _, fun _ => by simp only [PassResult.supplied]; split <;> rfl, hd⟩
  · obtain ⟨rfl, rfl⟩ := h.of_invalid hf
    obtain ⟨rfl, rfl⟩ := h'.of_invalid hf'
    have hseen := PassResult.Alike.seen r hb.toOption (rfl : r.declaration.map _ = _)
    refine ⟨hseen.aborted hff, fun hcases => ?_, ha⟩
    rw [show f' = f from hsame hcases]
    rfl

end Maintains

namespace Operator

/-- A pass for the body puts the guard on and then reports that there is no spec. The report quotes
the body with the version that it has just got. -/
structure Quotes (op : Operator) (c : MemoryCluster) (body : Json) (m : Metadata) : Prop where
  readable : metadataOf body = .ok m
  unmarked : m.isMarked = false
  unguarded : m.finalizers.contains op.guard = false
  unrefused : c.refusal m.name (op.guardedForm body m) = none
  bare : body.get? "spec" = none

theorem reconcileBody_agree (op : Operator) (r : PassResult) {n : String} {body : Json}
    (hn : ∀ m, metadataOf body = .ok m → m.name = n) {w w' : World MemoryCluster}
    (ha : Agree Eq op.settings n w.cluster w'.cluster) :
    (op.reconcileBody r body w).1.Alike (op.reconcileBody r body w').1 ∧
      ((∀ m, ¬ op.Quotes w.cluster body m) →
        (op.reconcileBody r body w').1.fault = (op.reconcileBody r body w).1.fault) ∧
      Agree Json.Alike op.settings n (op.reconcileBody r body w).2.cluster
        (op.reconcileBody r body w').2.cluster := by
  simp only [reconcileBody, op.stage_eq]
  cases hm : metadataOf body with
  | error fault => exact ⟨.refl _, fun _ => rfl, ha.alike⟩
  | ok m =>
    obtain rfl := hn m hm
    cases hd : m.isMarked <;> cases hg : m.finalizers.contains op.guard
    · have h := guardTenant_replaces hm hg w
      have h' := guardTenant_replaces hm hg w'
      simp only [Except.map, hd, hg, Stage.of]
      generalize (op.guardTenant body).run w = out at h ⊢
      generalize (op.guardTenant body).run w' = out' at h' ⊢
      obtain ⟨e, w₁⟩ := out
      obtain ⟨e', w₁'⟩ := out'
      obtain ⟨⟨fault, rfl, rfl⟩ | ⟨b, b', rfl, rfl, hb⟩, hafter⟩ :=
        h.agree (op.metadataOf_guardedForm hm) h' ha
      · exact ⟨.refl _, fun _ => rfl, hafter⟩
      · have hname : ∀ t, Declaration.parse b = .ok t → t.identifier = m.name := by
          obtain rfl := h.stored_eq
          exact fun t ht => identifier_of_parse (op.metadataOf_guarded hm _) ht
        have hspec : b.get? "spec" = body.get? "spec" := by
          rw [h.stored_eq, Json.withVersion, Json.get?_setMetadata_ne (by decide), guardedForm,
            replaceFinalizers_eq, Json.get?_setMetadata_ne (by decide)]
        obtain ⟨halike, hfault, hmaintained⟩ := (maintain_maintains op r b w₁).agree
          (maintain_maintains op r b' w₁') hb hname hafter
        refine ⟨halike, fun hq => hfault (.inr ?_), hmaintained⟩
        rw [hspec, Option.isSome_iff_ne_none]
        exact fun hnone => hq m ⟨hm, hd, hg, h.refusal_eq, hnone⟩
    · simp only [Except.map, hd, hg, Stage.of]
      obtain ⟨halike, hfault, hmaintained⟩ := (maintain_maintains op r body w).agree
        (maintain_maintains op r body w') (.refl body) (fun t ht => identifier_of_parse hm ht)
        ha.alike
      exact ⟨halike, fun _ => hfault (.inl rfl), hmaintained⟩
    · simp only [Except.map, hd, hg, Stage.of]
      refine ⟨.refl _, ?_, ha.alike⟩
      intro _
      trivial
    · have h := cleanUp_cleansUp hm op w
      have h' := cleanUp_cleansUp hm op w'
      simp only [Except.map, hd, hg, Stage.of]
      generalize (op.cleanUp body).run w = out at h ⊢
      generalize (op.cleanUp body).run w' = out' at h' ⊢
      obtain ⟨e, w₁⟩ := out
      obtain ⟨e', w₁'⟩ := out'
      obtain ⟨⟨fault, rfl, rfl⟩ | ⟨b, b', rfl, rfl, -⟩, hafter⟩ := h.agree hm h' ha
      · exact ⟨.refl _, fun _ => rfl, hafter⟩
      · exact ⟨.refl _, fun _ => rfl, hafter⟩

/-- A pass for the name ends with a report that quotes the new version of the tenant. -/
def QuotesFor (op : Operator) (c : MemoryCluster) (n : String) : Prop :=
  ∃ body m, Finds c (.str n) body ∧ op.Quotes c body m

/-- Passes for a tenant come to the same on clusters that agree on it. The fault is the same unless
it is a report that quotes the version. -/
theorem reconcile_agree (op : Operator) {n : String} {w w' : World MemoryCluster}
    (hn : w.cluster.KnowsAs n) (ha : Agree Eq op.settings n w.cluster w'.cluster) :
    (op.reconcile (.str n) w).1.Alike (op.reconcile (.str n) w').1 ∧
      (¬ op.QuotesFor w.cluster n →
        (op.reconcile (.str n) w').1.fault = (op.reconcile (.str n) w).1.fault) ∧
      Agree Json.Alike op.settings n (op.reconcile (.str n) w).2.cluster
        (op.reconcile (.str n) w').2.cluster := by
  have hnoted : Agree Eq op.settings n
      (World.mk (w.cluster.noting (.readingTenant (.str n))) w.journal).cluster
      (World.mk (w'.cluster.noting (.readingTenant (.str n))) w'.journal).cluster := ha.noting _
  simp only [reconcile, run_readTenant_call, ha.failureOf_eq, TenantKey.of_str, Except.map,
    ha.tenant_eq]
  cases hf : w.cluster.failureOf (.readingTenant (.str n)) with
  | some fault => exact ⟨.refl _, fun _ => rfl, hnoted.alike⟩
  | none =>
    cases ht : w.cluster.tenants.get? (.text n) with
    | none => exact ⟨.refl _, fun _ => rfl, hnoted.alike⟩
    | some kept =>
      obtain ⟨halike, hfault, hafter⟩ := op.reconcileBody_agree (.start (.str n))
        (fun m hm => hn kept m ht hm) hnoted
      refine ⟨halike, fun hq => hfault fun m hm => ?_, hafter⟩
      exact hq ⟨kept.body, m, ⟨hf, _, kept, TenantKey.of_str n, ht, rfl⟩,
        hm.readable, hm.unmarked, hm.unguarded, hm.unrefused, hm.bare⟩

end Operator

end MoodleTenancy
