import MoodleTenancy.Proofs.Agreement

/-!
# Tenants in isolation

Turns of two tenants, each a pass and the report of it, can be taken in either order.

* `patchTenantStatus_agree`, `Operator.publish_agree`: reports on clusters that agree on a tenant.
* `Json.AlikeButStatus`: bodies that differ in their status and their versions at most.
* `SameTurn`: two turns of a tenant come to the same.
* `attend_commutes`: the turns of two tenants, in both orders.
-/

namespace MoodleTenancy
set_option autoImplicit false

/-! ## Patches -/

namespace MemoryCluster

variable {s : Settings} {n : String} {c c' : MemoryCluster}

theorem patches_patchTenantStatus (c : MemoryCluster) (name patch : Json) :
    ((patchTenantStatus name patch).run c).2.patches = c.patches ++ [(name, patch)] := by
  obtain h | ⟨key, kept, status, -, -, h⟩ := c.cluster_patchTenantStatus name patch
  · rw [h]
    rfl
  · rw [h]
    rfl

theorem statusFields_alike {b b' : Json} (h : b.Alike b') : statusFields b' = statusFields b := by
  rw [statusFields, statusFields, h.get?_eq (by decide)]

/-- A patch comes to the same for bodies that differ in their versions. -/
theorem patchTenantStatus_agree (h : Agree Json.Alike s n c c') (patch : Json) :
    ((patchTenantStatus (.str n) patch).run c').1 = ((patchTenantStatus (.str n) patch).run c).1 ∧
      Agree Json.Alike s n ((patchTenantStatus (.str n) patch).run c).2
        ((patchTenantStatus (.str n) patch).run c').2 := by
  have hpatching : Agree Json.Alike s n (c.patching (.str n) patch) (c'.patching (.str n) patch) :=
    ⟨h.failures, h.objects, h.tenant⟩
  rw [run_patchTenantStatus, run_patchTenantStatus, h.failures, TenantKey.of_str]
  cases c.failures.get? (.patchTenantStatus, none) with
  | some fault => exact ⟨rfl, hpatching⟩
  | none =>
    cases hc : c.tenants.get? (.text n) with
    | none =>
      simp only [hc, h.tenant_none hc]
      exact ⟨trivial, hpatching⟩
    | some kept =>
      obtain ⟨kept', hc', hname, hbody⟩ := h.tenant_some hc
      simp only [hc, hc', statusFields_alike hbody]
      cases statusFields kept.body with
      | error fault => exact ⟨rfl, hpatching⟩
      | ok fields =>
        refine ⟨rfl, h.failures, h.objects, ?_⟩
        simp only [rewritten, Table.get?_insert_self]
        exact .some ⟨hname, hbody.set (by decide) _⟩

theorem patchTenantStatus_spares (c : MemoryCluster) (patch : Json) :
    Spares s n c ((patchTenantStatus (.str n) patch).run c).2 := by
  obtain h | ⟨key, kept, status, hkey, -, h⟩ := c.cluster_patchTenantStatus (.str n) patch
  · rw [h]
    exact ⟨rfl, fun _ => rfl, fun _ => rfl⟩
  · obtain rfl : key = .text n := (Except.ok.inj hkey).symm
    rw [h]
    exact ⟨rfl, fun _ => rfl, fun hk => Table.get?_insert_ne hk.symm _ _⟩

end MemoryCluster

/-! ## Bodies without their status -/

def Json.SameButStatus (b b' : Json) : Prop := b'.set "status" .null = b.set "status" .null

/-- Bodies that differ in their status and their versions at most. -/
def Json.AlikeButStatus (b b' : Json) : Prop := (b.set "status" .null).Alike (b'.set "status" .null)

theorem Json.Alike.butStatus {b b' : Json} (h : b.Alike b') : b.AlikeButStatus b' :=
  h.set (by decide) .null

theorem Json.SameButStatus.refl (b : Json) : b.SameButStatus b := rfl

theorem Json.sameButStatus_set (b v : Json) : b.SameButStatus (b.set "status" v) := by
  rw [SameButStatus]
  cases b with
  | obj fields => simp only [set_obj, Fields.set_set]
  | _ => rfl

theorem MemoryCluster.patchTenantStatus_sameButStatus (s : Settings) (n : String)
    (c : MemoryCluster) (patch : Json) :
    Agree Json.SameButStatus s n c ((patchTenantStatus (.str n) patch).run c).2 := by
  have hc := Agree.refl Json.SameButStatus.refl s n c
  obtain h | ⟨key, kept, status, hkey, hk, h⟩ := c.cluster_patchTenantStatus (.str n) patch
  · rw [h]
    exact ⟨hc.failures, hc.objects, hc.tenant⟩
  · obtain rfl : key = .text n := (Except.ok.inj hkey).symm
    rw [h]
    refine ⟨rfl, fun _ => rfl, ?_⟩
    rw [hk]
    simp only [rewritten, Table.get?_insert_self]
    exact .some ⟨rfl, Json.sameButStatus_set _ _⟩

/-! ## Reports -/

/-- How a patch for a tenant ends: that it is gone does not count. -/
def unlessGone : Except Fault Unit → Except Fault Unit
  | .error fault => if fault.isNotFound then .ok () else .error fault
  | .ok _ => .ok ()

namespace Operator

variable {op : Operator} {now : Time.Instant} {s : Settings} {n : String} {r r' : PassResult}

theorem run_publish {patch : Option Json} (h : r.patch op.settings now = .ok patch)
    (w : World MemoryCluster) :
    ∃ journal, (op.publish now r).run w =
      match patch with
      | none => (.ok (), w)
      | some patch =>
        (unlessGone ((MemoryCluster.patchTenantStatus r.name patch).run w.cluster).1,
          ⟨((MemoryCluster.patchTenantStatus r.name patch).run w.cluster).2, journal⟩) := by
  have hpatch : (Task.ofExcept (r.patch op.settings now)).run w = (.ok patch, w) := by
    rw [Task.run_ofExcept, h]
  simp only [publish, Task.run_bind, hpatch]
  cases patch with
  | none => exact ⟨[], rfl⟩
  | some patch =>
    simp only [Task.run_rescue, Job.run_call]
    rw [show (ApiServer.patchTenantStatus r.name patch).run w.cluster =
      (MemoryCluster.patchTenantStatus r.name patch).run w.cluster from rfl]
    generalize (MemoryCluster.patchTenantStatus r.name patch).run w.cluster = out
    obtain ⟨fault | _, c⟩ := out
    · simp only [unlessGone]
      split
      · exact ⟨_, rfl⟩
      · exact ⟨_, rfl⟩
    · exact ⟨_, rfl⟩

theorem run_publish_of_error {fault : Fault} (h : r.patch op.settings now = .error fault)
    (w : World MemoryCluster) : (op.publish now r).run w = (.error fault, w) := by
  rw [publish, Task.run_bind, Task.run_ofExcept, h]

/-- A report leaves a cluster as it is but for a patch. -/
theorem cluster_publish (op : Operator) (now : Time.Instant) (r : PassResult)
    (w : World MemoryCluster) :
    ((op.publish now r).run w).2.cluster = w.cluster ∨
      ∃ patch, r.patch op.settings now = .ok (some patch) ∧
        ((op.publish now r).run w).2.cluster =
          ((MemoryCluster.patchTenantStatus r.name patch).run w.cluster).2 := by
  cases h : r.patch op.settings now with
  | error fault =>
    rw [run_publish_of_error h]
    exact .inl rfl
  | ok patch =>
    obtain ⟨journal, hrun⟩ := run_publish h w
    rw [hrun]
    cases patch with
    | none => exact .inl rfl
    | some patch => exact .inr ⟨patch, rfl, rfl⟩

theorem publish_spares (hr : r.name = .str n) (w : World MemoryCluster) :
    Spares s n w.cluster ((op.publish now r).run w).2.cluster := by
  obtain h | ⟨patch, -, h⟩ := op.cluster_publish now r w
  · rw [h]
    exact .refl _
  · rw [h, hr]
    exact w.cluster.patchTenantStatus_spares patch

theorem publish_sameButStatus (hr : r.name = .str n) (w : World MemoryCluster) :
    Agree Json.SameButStatus s n w.cluster ((op.publish now r).run w).2.cluster := by
  obtain h | ⟨patch, -, h⟩ := op.cluster_publish now r w
  · rw [h]
    exact .refl Json.SameButStatus.refl _ _ _
  · rw [h, hr]
    exact w.cluster.patchTenantStatus_sameButStatus s n patch

theorem publish_agree {w w' : World MemoryCluster} (ha : Agree Json.Alike s n w.cluster w'.cluster)
    (hr : r.name = .str n) (hr' : r'.name = .str n)
    (hp : r'.patch op.settings now = r.patch op.settings now) :
    ((op.publish now r').run w').1 = ((op.publish now r).run w).1 ∧
      (∃ ps, ((op.publish now r).run w).2.cluster.patches = w.cluster.patches ++ ps ∧
        ((op.publish now r').run w').2.cluster.patches = w'.cluster.patches ++ ps) ∧
      Agree Json.Alike s n ((op.publish now r).run w).2.cluster
        ((op.publish now r').run w').2.cluster := by
  cases h : r.patch op.settings now with
  | error fault =>
    rw [run_publish_of_error h, run_publish_of_error (hp.trans h)]
    exact ⟨rfl, ⟨[], by simp⟩, ha⟩
  | ok patch =>
    obtain ⟨journal, hrun⟩ := run_publish h w
    obtain ⟨journal', hrun'⟩ := run_publish (hp.trans h) w'
    rw [hrun, hrun', hr, hr']
    cases patch with
    | none => exact ⟨rfl, ⟨[], by simp⟩, ha⟩
    | some patch =>
      obtain ⟨hanswer, hafter⟩ := MemoryCluster.patchTenantStatus_agree ha patch
      refine ⟨congrArg unlessGone hanswer, ⟨[(.str n, patch)], ?_, ?_⟩, hafter⟩
      · exact w.cluster.patches_patchTenantStatus _ _
      · exact w'.cluster.patches_patchTenantStatus _ _

/-! ## Turns -/

theorem run_attend_str (op : Operator) (now : Time.Instant) (n : String) (w : World MemoryCluster) :
    (op.attend now (.str n)).run w =
      (((op.publish now (op.reconcile (.str n) w).1).run (op.reconcile (.str n) w).2).1.map
        fun _ => (op.reconcile (.str n) w).1,
        ((op.publish now (op.reconcile (.str n) w).1).run (op.reconcile (.str n) w).2).2) := by
  rw [op.run_attend now (rfl : (Json.str n).asKey = .ok (.text n))]
  generalize (op.publish now (op.reconcile (.str n) w).1).run (op.reconcile (.str n) w).2 = out
  obtain ⟨_ | _, w'⟩ := out <;> rfl

/-- A turn of one tenant spares what belongs to others. -/
theorem attend_spares (op : Operator) (now : Time.Instant) {n : String} {w : World MemoryCluster}
    (hn : w.cluster.KnowsAs n) :
    Spares op.settings n w.cluster ((op.attend now (.str n)).run w).2.cluster := by
  have hpass := reconcile_reconciles op (.str n) w
  rw [run_attend_str]
  exact (hpass.spares hn).trans (publish_spares hpass.name_eq _)

end Operator

/-- Two turns of a tenant have the same answers and patches. What they answer may differ in the
versions of the tenant, but not in the fault. -/
structure SameTurn (c c' : MemoryCluster)
    (out out' : Except Fault PassResult × World MemoryCluster) : Prop where
  answer : (∃ fault, out.1 = .error fault ∧ out'.1 = .error fault) ∨
    ∃ r r', out.1 = .ok r ∧ out'.1 = .ok r' ∧ r.Alike r' ∧ r'.fault = r.fault
  patches : ∃ ps, out.2.cluster.patches = c.patches ++ ps ∧
    out'.2.cluster.patches = c'.patches ++ ps

namespace Operator

variable (op : Operator) (now : Time.Instant) {n : String} {w w' : World MemoryCluster}

theorem attend_agree (hn : w.cluster.KnowsAs n) (ha : Agree Eq op.settings n w.cluster w'.cluster)
    (hq : ¬ op.QuotesFor w.cluster n) :
    SameTurn w.cluster w'.cluster ((op.attend now (.str n)).run w) ((op.attend now (.str n)).run w') ∧
      Agree Json.Alike op.settings n ((op.attend now (.str n)).run w).2.cluster
        ((op.attend now (.str n)).run w').2.cluster := by
  obtain ⟨halike, hfault, hpass⟩ := op.reconcile_agree hn ha
  have hr := reconcile_reconciles op (.str n) w
  have hr' := reconcile_reconciles op (.str n) w'
  have hpatches := hr.lasts (.patches _) rfl
  have hpatches' := hr'.lasts (.patches _) rfl
  obtain ⟨hanswer, ⟨ps, hps, hps'⟩, hafter⟩ := publish_agree hpass hr.name_eq hr'.name_eq
    (halike.patch_eq (hfault hq) op.settings now)
  rw [run_attend_str, run_attend_str, hanswer]
  refine ⟨⟨?_, ps, ?_, ?_⟩, hafter⟩
  · generalize ((op.publish now (op.reconcile (.str n) w).1).run (op.reconcile (.str n) w).2).1 = e
    cases e with
    | error fault => exact .inl ⟨fault, rfl, rfl⟩
    | ok _ => exact .inr ⟨_, _, rfl, rfl, halike, hfault hq⟩
  · rw [hps, hpatches]
  · rw [hps', hpatches']

/-- Turns that end with a report that quotes a version come to the same but for the status. -/
theorem attend_agree_butStatus (hn : w.cluster.KnowsAs n)
    (ha : Agree Eq op.settings n w.cluster w'.cluster) :
    (∀ r r', ((op.attend now (.str n)).run w).1 = .ok r →
        ((op.attend now (.str n)).run w').1 = .ok r' → r.Alike r') ∧
      Agree Json.AlikeButStatus op.settings n ((op.attend now (.str n)).run w).2.cluster
        ((op.attend now (.str n)).run w').2.cluster := by
  obtain ⟨halike, -, hpass⟩ := op.reconcile_agree hn ha
  have hr := reconcile_reconciles op (.str n) w
  have hr' := reconcile_reconciles op (.str n) w'
  rw [run_attend_str, run_attend_str]
  refine ⟨?_, hpass.square (publish_sameButStatus hr.name_eq _)
    (publish_sameButStatus hr'.name_eq _) ?_⟩
  · intro r r' h h'
    obtain rfl := eq_of_map_const h
    obtain rfl := eq_of_map_const h'
    exact halike
  · intro b b' x x' hb hx hx'
    rw [Json.SameButStatus] at hx hx'
    rw [Json.AlikeButStatus, hx, hx']
    exact hb.butStatus

end Operator

/-! ## Both orders -/

section Orders

-- `wa` comes of a turn of `a` and `wab` of one of `b` after it, `wb` and `wba` of the other order.
variable {R : Json → Json → Prop} {s : Settings} {a b : String} {w wa wab wb wba : MemoryCluster}
  (hab : a ≠ b) (ha₁ : Spares s a w wa) (hb₂ : Spares s b wa wab) (hb₁ : Spares s b w wb)
  (ha₂ : Spares s a wb wba)
include hab ha₁ hb₂ hb₁ ha₂

theorem objects_of_orders (ha : Agree R s a wa wba) (hb : Agree R s b wb wab) (k : ObjectKey) :
    wba.objects.get? k = wab.objects.get? k := by
  by_cases hka : k.BelongsTo s a
  · have hkb : ¬ k.BelongsTo s b := fun hkb => hab (hka.unique hkb)
    rw [ha.objects hka, hb₂.objects hkb]
  · rw [ha₂.objects hka]
    by_cases hkb : k.BelongsTo s b
    · rw [hb.objects hkb]
    · rw [hb₁.objects hkb, hb₂.objects hkb, ha₁.objects hka]

theorem tenant_of_orders (hR : ∀ x, R x x) (hsymm : ∀ {x y}, R x y → R y x) {key : TenantKey}
    (ha : key = .text a → Agree R s a wa wba) (hb : key = .text b → Agree R s b wb wab) :
    SameTenant R (wab.tenants.get? key) (wba.tenants.get? key) := by
  by_cases hka : key = .text a
  · have hkb : key ≠ .text b := fun hkb => hab (Key.Identity.text.inj (hka.symm.trans hkb))
    have htenant := (ha hka).tenant
    rw [← hka] at htenant
    rw [hb₂.tenants hkb]
    exact htenant
  · rw [ha₂.tenants hka]
    by_cases hkb : key = .text b
    · have htenant := (hb hkb).tenant
      rw [← hkb] at htenant
      exact htenant.symm hsymm
    · rw [hb₁.tenants hkb, hb₂.tenants hkb, ha₁.tenants hka]
      exact .refl hR _

end Orders

theorem Json.AlikeButStatus.symm {b b' : Json} (h : b.AlikeButStatus b') : b'.AlikeButStatus b :=
  Json.Alike.symm h

/-- The turns of two tenants can be taken in either order. The same objects come of it, the same
bodies up to versions, and the same answers and patches. Only a tenant without a spec that is
guarded in its turn has a report that quotes its version: its status may differ, and so may the
fault in the answer. -/
theorem attend_commutes (op : Operator) (now : Time.Instant) {a b : String} (hab : a ≠ b)
    {w : World MemoryCluster} (hw : w.cluster.SelfNamed) :
    let a₁ := (op.attend now (.str a)).run w
    let b₂ := (op.attend now (.str b)).run a₁.2
    let b₁ := (op.attend now (.str b)).run w
    let a₂ := (op.attend now (.str a)).run b₁.2
    (∀ k, a₂.2.cluster.objects.get? k = b₂.2.cluster.objects.get? k) ∧
    (∀ key, (∀ n, key = .text n → ¬ op.QuotesFor w.cluster n) →
      SameTenant Json.Alike (b₂.2.cluster.tenants.get? key) (a₂.2.cluster.tenants.get? key)) ∧
    (∀ key, SameTenant Json.AlikeButStatus (b₂.2.cluster.tenants.get? key)
      (a₂.2.cluster.tenants.get? key)) ∧
    (¬ op.QuotesFor w.cluster a → SameTurn w.cluster b₁.2.cluster a₁ a₂) ∧
    (¬ op.QuotesFor w.cluster b → SameTurn w.cluster a₁.2.cluster b₁ b₂) ∧
    (∀ r r', a₁.1 = .ok r → a₂.1 = .ok r' → r.Alike r') ∧
    (∀ r r', b₁.1 = .ok r → b₂.1 = .ok r' → r.Alike r') := by
  intro a₁ b₂ b₁ a₂
  have hknows := hw.knowsAs
  have hspares₁ := op.attend_spares now (hknows a)
  have hspares₁' := op.attend_spares now (hknows b)
  have hspares₂ := op.attend_spares now (hspares₁.knowsAs hab.symm (hknows b))
  have hspares₂' := op.attend_spares now (hspares₁'.knowsAs hab (hknows a))
  have hagree := hspares₁'.agree hab.symm
  have hagree' := hspares₁.agree hab
  obtain ⟨ha, hafter⟩ := op.attend_agree_butStatus now (hknows a) hagree
  obtain ⟨hb, hafter'⟩ := op.attend_agree_butStatus now (hknows b) hagree'
  refine ⟨?_, ?_, ?_, ?_, ?_, ha, hb⟩
  · exact objects_of_orders hab hspares₁ hspares₂ hspares₁' hspares₂' hafter hafter'
  · intro key hq
    refine tenant_of_orders hab hspares₁ hspares₂ hspares₁' hspares₂' .refl .symm ?_ ?_
    · intro hkey
      exact (op.attend_agree now (hknows a) hagree (hq a hkey)).2
    · intro hkey
      exact (op.attend_agree now (hknows b) hagree' (hq b hkey)).2
  · intro key
    exact tenant_of_orders hab hspares₁ hspares₂ hspares₁' hspares₂' (fun _ => .refl _) .symm
      (fun _ => hafter) (fun _ => hafter')
  · intro hq
    exact (op.attend_agree now (hknows a) hagree hq).1
  · intro hq
    exact (op.attend_agree now (hknows b) hagree' hq).1

theorem attend_commutes_plain :
    let op : Operator := {}
    let w : World MemoryCluster :=
      { cluster := .joinedBy {} [plainTenant "a", plainTenant "b"] }
    let a₁ := (op.attend 0 (.str "a")).run w
    let b₂ := (op.attend 0 (.str "b")).run a₁.2
    let b₁ := (op.attend 0 (.str "b")).run w
    let a₂ := (op.attend 0 (.str "a")).run b₁.2
    w.cluster.SelfNamed ∧ ¬ op.QuotesFor w.cluster "a" ∧
      (∀ k, a₂.2.cluster.objects.get? k = b₂.2.cluster.objects.get? k) ∧
      SameTurn w.cluster b₁.2.cluster a₁ a₂ := by
  intro op w
  have hw : w.cluster.SelfNamed := by
    refine MemoryCluster.selfNamed_empty.joinedBy ?_
    simp [Json.metadatum, plainTenant, Fields.get?_cons]
  have hspec : (w.cluster.tenants.get? (.text "a")).all
      (fun kept => (kept.body.get? "spec").isSome) = true := by decide +kernel
  have hquiet : ¬ op.QuotesFor w.cluster "a" := by
    rintro ⟨body, m, ⟨-, key, kept, hkey, hk, rfl⟩, hq⟩
    obtain rfl : key = .text "a" := (Except.ok.inj hkey).symm
    rw [hk, Option.all_some, hq.bare] at hspec
    exact absurd hspec Bool.false_ne_true
  have h := attend_commutes op 0 (by decide : "a" ≠ "b") hw
  exact ⟨hw, hquiet, h.1, h.2.2.2.1 hquiet⟩

/-! ## A report that quotes a version -/

def missingSpec (body : Json) : Validation.Report :=
  ⟨"TenantDeclaration", [⟨.missing, [.key "spec"], .json body⟩]⟩

/-- What comes before the excerpt of the body in the report. -/
def missingSpecHead : String :=
  toString 1 ++ " validation error" ++ "" ++ " for " ++ "TenantDeclaration" ++ "\n" ++ "spec" ++
    "\n" ++ ("  " ++ "Field required" ++ " [type=" ++ "missing" ++ ", input_value=")

theorem text_missingSpec (body : Json) :
    ∃ tail, (missingSpec body).text =
      missingSpecHead ++ (String.ofList (Text.excerpt body.literal.toList) ++ tail) := by
  have htext : (missingSpec body).text =
      toString 1 ++ " validation error" ++ "" ++ " for " ++ "TenantDeclaration" ++ "\n" ++ "spec" ++
        "\n" ++ ("  " ++ "Field required" ++ " [type=" ++ "missing" ++ ", input_value=" ++
          String.ofList (Text.excerpt body.literal.toList) ++ ", input_type=" ++ body.kindName ++
          "]") ++ "\n" ++
        ("    For further information visit " ++ Validation.helpPage ++ "missing") := rfl
  rw [htext]
  simp only [missingSpecHead, String.append_assoc]
  exact ⟨_, rfl⟩

/-- Reports that begin alike have the same excerpts. -/
theorem excerpt_of_firstChars {b b' : Json} (hb : (Text.excerpt b.literal.toList).length = 52)
    (hb' : (Text.excerpt b'.literal.toList).length = 52)
    (h : Text.firstChars 200 (missingSpec b).text = Text.firstChars 200 (missingSpec b').text) :
    Text.excerpt b.literal.toList = Text.excerpt b'.literal.toList := by
  have hhead : missingSpecHead.toList.length = 90 := by decide +kernel
  obtain ⟨tail, ht⟩ := text_missingSpec b
  obtain ⟨tail', ht'⟩ := text_missingSpec b'
  have hcut : ∀ excerpt rest : List Char, excerpt.length = 52 →
      (((missingSpecHead.toList ++ (excerpt ++ rest)).take 200).drop 90).take 52 = excerpt := by
    intro excerpt rest hlen
    rw [List.drop_take, ← hhead, List.drop_left, List.take_take, hhead, ← hlen]
    simp [hlen]
  have hlist := congrArg String.toList h
  simp only [Text.firstChars, String.toList_ofList, ht, ht', String.toList_append] at hlist
  rw [← hcut _ tail.toList hb, hlist, hcut _ _ hb']

def MemoryCluster.messagesFor (c : MemoryCluster) (name : String) : List Json :=
  c.patches.filterMap fun p => if p.1.isText name then p.2.get? "message" else none

/-- A body with metadata and nothing else. -/
def bareTenant (name : String) : Json :=
  .obj [("metadata", .obj [("finalizers", .arr []), ("name", .str name)])]

/-- The body once it is stored and guarded. -/
def bareTenantGuarded (name guard version : String) : Json :=
  .obj [("metadata", .obj [("finalizers", .arr [.str guard]), ("name", .str name),
    ("uid", .str "uid-1"), ("generation", .int 1), ("resourceVersion", .str version)])]

def Operator.attendAll (op : Operator) (now : Time.Instant) (names : List String)
    (w : World MemoryCluster) : World MemoryCluster :=
  names.foldl (fun w n => ((op.attend now (.str n)).run w).2) w

/-- A world with a tenant without a spec and a plain one. -/
def bareBesidePlain : World MemoryCluster :=
  { cluster := .joinedBy {} [bareTenant "a", plainTenant "b"] }

/-- The message of a pass that puts the guard on a tenant without a spec. -/
def bareMessage (guard version : String) : String :=
  "Reconcile failed: " ++
    Text.firstChars 200 (missingSpec (bareTenantGuarded "a" guard version)).text

theorem messagesFor_bare_first :
    (({} : Operator).attendAll 0 ["a", "b"] bareBesidePlain).cluster.messagesFor "a" =
      [.str (bareMessage ({} : Operator).guard "3")] := by
  rfl

theorem messagesFor_bare_second :
    (({} : Operator).attendAll 0 ["b", "a"] bareBesidePlain).cluster.messagesFor "a" =
      [.str (bareMessage ({} : Operator).guard "4")] := by
  rfl

theorem excerpt_bareTenantGuarded : ∀ v ∈ ["3", "4"],
    Text.excerpt (bareTenantGuarded "a" ({} : Operator).guard v).literal.toList =
      "\x7b'metadata': \x7b'finalizers...'resourceVersion': '".toList ++ v.toList ++
        "'\x7d\x7d".toList := by
  simp only [bareTenantGuarded, Json.literal, Json.literalFields, Json.literalItems,
    Json.keyLiteral, Text.quote, String.toList_append, String.toList_ofList]
  decide +kernel

/-- The message for a tenant without a spec depends on how many versions were given out before. -/
theorem messages_not_commute :
    bareBesidePlain.cluster.SelfNamed ∧
      (({} : Operator).attendAll 0 ["a", "b"] bareBesidePlain).cluster.messagesFor "a" ≠
        (({} : Operator).attendAll 0 ["b", "a"] bareBesidePlain).cluster.messagesFor "a" := by
  constructor
  · refine MemoryCluster.selfNamed_empty.joinedBy ?_
    simp [Json.metadatum, plainTenant, bareTenant, Fields.get?_cons]
  · rw [messagesFor_bare_first, messagesFor_bare_second]
    intro h
    have hfirst := excerpt_bareTenantGuarded "3" (by simp)
    have hsecond := excerpt_bareTenantGuarded "4" (by simp)
    have htext := (String.append_right_inj _).1 (Json.str.inj (List.cons.inj h).1)
    have hexcerpt := excerpt_of_firstChars (by rw [hfirst]; decide) (by rw [hsecond]; decide) htext
    rw [hfirst, hsecond] at hexcerpt
    exact absurd hexcerpt (by decide)

end MoodleTenancy
