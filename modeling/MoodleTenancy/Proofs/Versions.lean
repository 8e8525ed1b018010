import MoodleTenancy.Proofs.Ownership
import MoodleTenancy.Proofs.Sameness
import MoodleTenancy.Proofs.Sessions

/-!
# Versions

Every stored tenant has a version, which is a number that was new when the tenant was stored, so no
number is the version of two tenants that were stored one after the other.

* `Json.HasVersion`, `Json.IsNamed`: what the metadata of a stored tenant says.
* `Numbered`: a cluster without failures whose tenants have names and versions.
* `Ages`: what may have happened to the tenants of a cluster by a later time.
* `Since`: a later time at which the tenants still have names and versions.
* `Numbered.run_replaceTenant_of_ne`, `Numbered.run_replaceTenant_of_eq`: bodies of another version
  are not taken, and those of the same one are.
* `MemoryStep.IsOfTenants`, `Session.after`: steps that are about tenants, and runs of steps.
* `Session.after_since`: what runs of such steps come to.
-/

namespace MoodleTenancy
set_option autoImplicit false

/-! ## What the metadata says -/

def Json.HasVersion (body : Json) (k : Nat) : Prop :=
  body.metadatum "resourceVersion" = some (.str (toString k))

theorem Json.HasVersion.unique {body : Json} {k l : Nat} (h : body.HasVersion k)
    (h' : body.HasVersion l) : k = l := by
  have htext := h.symm.trans h'
  rw [Option.some.injEq, Json.str.injEq] at htext
  have hdigits := congrArg String.toList htext
  rw [Nat.toString_eq_repr, Nat.toString_eq_repr, Nat.toList_repr, Nat.toList_repr] at hdigits
  have hnumbers := congrArg (Nat.ofDigitChars 10 · 0) hdigits
  simpa only [Nat.ofDigitChars_ten_toDigits] using hnumbers

/-- The name in the metadata is one for the key. -/
def Json.IsNamed (body : Json) (key : TenantKey) : Prop :=
  ∃ name, body.metadatum "name" = some name ∧ TenantKey.of name = .ok key

theorem Json.metadatum_setMetadata_obj {fields md : Fields}
    (h : Fields.get? "metadata" fields = some (.obj md)) (key : String) (v : Json) :
    ((Json.obj fields).setMetadata key v).metadatum key = some v := by
  rw [metadatum, get?_metadata_setMetadata h, Option.bind_some, get?_obj, Fields.get?_set_self]

theorem Json.IsNamed.setMetadata {body : Json} {k : TenantKey} (h : body.IsNamed k) {key : String}
    (hk : key ≠ "name") (v : Json) : (body.setMetadata key v).IsNamed k := by
  rw [IsNamed, metadatum_setMetadata_ne hk]
  exact h

theorem Json.IsNamed.obj {body : Json} {k : TenantKey} (h : body.IsNamed k) :
    ∃ fields md name, body = .obj fields ∧ Fields.get? "metadata" fields = some (.obj md) ∧
      Fields.get? "name" md = some name ∧ TenantKey.of name = .ok k := by
  obtain ⟨name, hname, hkey⟩ := h
  obtain ⟨fields, md, rfl, hmd, hn⟩ := Json.metadatum_eq_some hname
  exact ⟨fields, md, name, rfl, hmd, hn, hkey⟩

theorem Json.IsNamed.hasVersion {body : Json} {k : TenantKey} (h : body.IsNamed k)
    (c : MemoryCluster) : (body.withVersion c.version).HasVersion c.nextVersion := by
  obtain ⟨fields, md, name, rfl, hmd, -, -⟩ := h.obj
  exact Json.metadatum_setMetadata_obj hmd _ _

/-! ## Clusters with versions -/

/-- A cluster that meets no failures and whose tenants have their names and versions that were
given out. -/
structure Numbered (c : MemoryCluster) : Prop where
  unfailing : c.failures = []
  named : c.SelfNamed
  versioned {key : TenantKey} {t : StoredTenant} : c.tenants.get? key = some t →
    ∃ k < c.nextVersion, t.body.HasVersion k

/-- Every tenant of the later cluster was there before or has a version that is new. -/
structure Ages (c d : MemoryCluster) : Prop where
  failures : d.failures = c.failures
  later : c.nextVersion ≤ d.nextVersion
  tenants {key : TenantKey} {t : StoredTenant} : d.tenants.get? key = some t →
    c.tenants.get? key = some t ∨
      t.body.IsNamed key ∧ ∃ k, c.nextVersion ≤ k ∧ k < d.nextVersion ∧ t.body.HasVersion k

theorem MemoryCluster.emptied_nextVersion (c : MemoryCluster) (key : ObjectKey) :
    (c.emptied key).nextVersion = c.nextVersion := by
  simp only [emptied]
  split <;> rfl

theorem Numbered.empty : Numbered {} :=
  ⟨rfl, MemoryCluster.selfNamed_empty, fun h => absurd h (by simp)⟩

namespace Ages

variable {c d e : MemoryCluster}

theorem trans (h : Ages c d) (h' : Ages d e) : Ages c e where
  failures := h'.failures.trans h.failures
  later := Nat.le_trans h.later h'.later
  tenants {key t} ht := by
    have hcd := h.later
    have hde := h'.later
    obtain hd | ⟨hn, k, hk, hlt, hv⟩ := h'.tenants ht
    · obtain hc | ⟨hn, k, hk, hlt, hv⟩ := h.tenants hd
      · exact .inl hc
      · exact .inr ⟨hn, k, hk, by omega, hv⟩
    · exact .inr ⟨hn, k, by omega, hlt, hv⟩

theorem of_tenants_eq (hf : d.failures = c.failures) (hv : c.nextVersion ≤ d.nextVersion)
    (ht : d.tenants = c.tenants) : Ages c d :=
  ⟨hf, hv, fun h => .inl (by rw [← ht, h])⟩

theorem refl (c : MemoryCluster) : Ages c c := of_tenants_eq rfl Nat.le.refl rfl

theorem noting (c : MemoryCluster) (call : Call) : Ages c (c.noting call) :=
  of_tenants_eq rfl Nat.le.refl rfl

theorem emptied (c : MemoryCluster) (key : ObjectKey) : Ages c (c.emptied key) :=
  of_tenants_eq (c.emptied_failures key) (Nat.le_of_eq (c.emptied_nextVersion key).symm)
    (c.emptied_tenants key)

/-- A tenant went. -/
theorem dropped (hf : d.failures = c.failures) (hv : c.nextVersion ≤ d.nextVersion)
    {key : TenantKey} (ht : d.tenants = c.tenants.erase key) : Ages c d where
  failures := hf
  later := hv
  tenants {k t} h := by
    rw [ht, Table.get?_erase] at h
    split at h
    · exact absurd h (by simp)
    · exact .inl h

/-- A tenant was stored with the next version. -/
theorem stored (hf : d.failures = c.failures) (hv : d.nextVersion = c.nextVersion + 1)
    {key : TenantKey} {t : StoredTenant} (ht : d.tenants = c.tenants.insert key t)
    (hn : t.body.IsNamed key) (hb : t.body.HasVersion c.nextVersion) : Ages c d where
  failures := hf
  later := by omega
  tenants {k u} h := by
    rw [ht, Table.get?_insert] at h
    split at h
    · rename_i hk
      subst hk
      obtain rfl := Option.some.inj h
      exact .inr ⟨hn, c.nextVersion, Nat.le.refl, by omega, hb⟩
    · exact .inl h

/-- What was stored under a key is there still, unless it has gone or has another version. -/
theorem get?_eq (h : Ages c d) {key : TenantKey} {t u : StoredTenant}
    (ht : c.tenants.get? key = some t) (hu : d.tenants.get? key = some u) {k : Nat}
    (hk : k < c.nextVersion) (hv : u.body.HasVersion k) : u = t := by
  obtain hc | ⟨-, l, hl, -, hv'⟩ := h.tenants hu
  · exact Option.some.inj (hc.symm.trans ht)
  · have := hv.unique hv'
    omega

/-- A version that was given out and is not that of the tenant under a key will not be again. -/
theorem not_hasVersion (h : Ages c d) {key : TenantKey} {k : Nat} (hk : k < c.nextVersion)
    (hc : ∀ t, c.tenants.get? key = some t → ¬ t.body.HasVersion k) {u : StoredTenant}
    (hu : d.tenants.get? key = some u) : ¬ u.body.HasVersion k := by
  intro hv
  obtain ht | ⟨-, l, hl, -, hv'⟩ := h.tenants hu
  · exact hc u ht hv
  · have := hv.unique hv'
    omega

end Ages

theorem Numbered.ages {c d : MemoryCluster} (h : Numbered c) (ha : Ages c d) : Numbered d where
  unfailing := ha.failures.trans h.unfailing
  named key t ht := (ha.tenants ht).elim (h.named key t) And.left
  versioned {key t} ht := by
    obtain hc | ⟨-, k, -, hlt, hv⟩ := ha.tenants ht
    · obtain ⟨k, hlt, hv⟩ := h.versioned hc
      exact ⟨k, Nat.lt_of_lt_of_le hlt ha.later, hv⟩
    · exact ⟨k, hlt, hv⟩

/-- The second cluster is a later form of the first one, and its tenants have names and versions. -/
structure Since (c d : MemoryCluster) : Prop where
  numbered : Numbered d
  ages : Ages c d

theorem Since.step {c d e : MemoryCluster} (h : Since c d) (ha : Ages d e) : Since c e :=
  ⟨h.numbered.ages ha, h.ages.trans ha⟩

/-! ## Calls -/

namespace MemoryCluster

/-- The cluster after a version is given out. -/
def counting (c : MemoryCluster) : MemoryCluster := { c with nextVersion := c.nextVersion + 1 }

theorem run_newVersion_eq (c : MemoryCluster) :
    newVersion.run c = (.ok c.version, c.counting) := rfl

/-- The cluster after a body is taken in place of the one under a key; a body that nothing keeps
goes at once. -/
def taking (c : MemoryCluster) (key : TenantKey) (current : StoredTenant) (body : Json) :
    MemoryCluster :=
  { c.counting with
    tenants :=
      if isReleased (.ofOption (body.get? "metadata")) then c.tenants.erase key
      else c.tenants.insert key ⟨current.name, body⟩ }

end MemoryCluster

theorem Ages.taking {c : MemoryCluster} {key : TenantKey} (current : StoredTenant) {body : Json}
    (hn : body.IsNamed key) : Ages c (c.taking key current (body.withVersion c.version)) := by
  cases hr : MemoryCluster.isReleased
      (.ofOption ((body.withVersion c.version).get? "metadata")) with
  | true =>
    have ht : (c.taking key current (body.withVersion c.version)).tenants = c.tenants.erase key := by
      simp [MemoryCluster.taking, hr]
    exact .dropped rfl (Nat.le_succ _) ht
  | false =>
    have ht : (c.taking key current (body.withVersion c.version)).tenants =
        c.tenants.insert key ⟨current.name, body.withVersion c.version⟩ := by
      simp [MemoryCluster.taking, hr]
    exact .stored rfl rfl ht (hn.setMetadata (by decide) _) (hn.hasVersion c)

namespace Numbered

variable {c : MemoryCluster}

theorem failureOf_eq_none (h : Numbered c) (call : Call) : c.failureOf call = none := by
  rw [MemoryCluster.failureOf, h.unfailing]
  rfl

theorem latestOf_eq (h : Numbered c) {key : TenantKey} {t : StoredTenant}
    (ht : c.tenants.get? key = some t) :
    ∃ k < c.nextVersion, t.body.HasVersion k ∧
      MemoryCluster.latestOf t = .ok (.str (toString k)) := by
  obtain ⟨k, hlt, hv⟩ := h.versioned ht
  refine ⟨k, hlt, hv, ?_⟩
  obtain ⟨fields, md, hbody, hmd, hver⟩ := Json.metadatum_eq_some hv
  rw [MemoryCluster.latestOf, hbody, Json.entry_eq_ok.2 (Json.get?_obj _ fields ▸ hmd)]
  exact Json.entry_eq_ok (j := .obj md).2 hver

/-- A body takes the place of the stored one if it has its version. -/
theorem run_replaceTenant (h : Numbered c) {body : Json} {key : TenantKey} (hn : body.IsNamed key) :
    ∃ call, (MemoryCluster.replaceTenant body).run c =
      match c.tenants.get? key with
      | none => (.error .notFound, c.noting call)
      | some current =>
        match MemoryCluster.latestOf current with
        | .error fault => (.error fault, c.noting call)
        | .ok latest =>
          if (Json.ofOption (body.metadatum "resourceVersion")).same latest then
            (.ok (body.withVersion c.version),
              (c.noting call).taking key current (body.withVersion c.version))
          else (.error .conflict, c.noting call) := by
  obtain ⟨fields, md, name, rfl, hmd, hname, hkey⟩ := hn.obj
  have hentry : (Json.obj fields).entry "metadata" = .ok (.obj md) := Json.entry_eq_ok.2 hmd
  have hnamed : (Json.obj md).entry "name" = .ok name := Json.entry_eq_ok.2 hname
  refine ⟨⟨.replaceTenant, none, name⟩, ?_⟩
  have hfail : (MemoryCluster.meetFailure .replaceTenant none).run
      (c.noting ⟨.replaceTenant, none, name⟩) = (.ok (), c.noting ⟨.replaceTenant, none, name⟩) := by
    rw [MemoryCluster.run_meetFailure, MemoryCluster.noting_failures, h.unfailing]
    rfl
  simp only [MemoryCluster.replaceTenant, Task.run_bind, Task.run_ofExcept, hentry, hnamed,
    MemoryCluster.run_record, hfail, MemoryCluster.run_tenant?, hkey, Except.map,
    MemoryCluster.noting_tenants]
  cases hcur : c.tenants.get? key with
  | none => rfl
  | some current =>
    have hlatest : (current.body.entry "metadata").bind (Json.entry "resourceVersion") =
        MemoryCluster.latestOf current := rfl
    simp only [Option.map_some, Task.run_bind, Task.run_ofExcept, Json.field_obj, hlatest,
      Json.metadatum, Json.get?_obj, hmd, Option.bind_some]
    cases MemoryCluster.latestOf current with
    | error fault => rfl
    | ok latest =>
      by_cases hs : (Json.ofOption (Fields.get? "resourceVersion" md)).same latest = true
      · have hstored : (Json.obj fields).set "metadata"
            ((Json.obj md).set "resourceVersion" c.version) =
            (Json.obj fields).withVersion c.version := by
          simp [Json.withVersion, Json.setMetadata, hmd, Json.ofOption]
        have hnew : Json.ofOption (((Json.obj fields).withVersion c.version).get? "metadata") =
            (Json.obj md).set "resourceVersion" c.version :=
          congrArg Json.ofOption (Json.get?_metadata_setMetadata hmd _ _)
        have hv : (c.noting ⟨.replaceTenant, none, name⟩).version = c.version := rfl
        have hcounted : (c.noting ⟨.replaceTenant, none, name⟩).counting.tenants.get? key =
            some current := hcur
        simp only [hs, if_true, Task.run_bind, MemoryCluster.run_newVersion_eq, hv, hstored,
          MemoryCluster.taking, hnew]
        by_cases hr : MemoryCluster.isReleased ((Json.obj md).set "resourceVersion" c.version) = true
        · simp only [hr, if_true, MemoryCluster.dropTenant, Task.run_bind, Task.run_ofExcept, hkey]
          rfl
        · rw [Bool.not_eq_true] at hr
          simp only [hr, Bool.false_eq_true, if_false, Task.run_bind]
          rw [MemoryCluster.run_storeTenant_of_get? _ hkey hcounted]
          rfl
      · rw [Bool.not_eq_true] at hs
        simp only [hs, Bool.false_eq_true, if_false]
        rfl

/-- A body of another version is not taken, and no tenant changes. -/
theorem run_replaceTenant_of_ne (h : Numbered c) {body : Json} {key : TenantKey}
    (hn : body.IsNamed key) (hne : ∀ t, c.tenants.get? key = some t →
      t.body.metadatum "resourceVersion" ≠ body.metadatum "resourceVersion") :
    ∃ call, (MemoryCluster.replaceTenant body).run c =
      (.error (if (c.tenants.get? key).isSome then .conflict else .notFound), c.noting call) := by
  obtain ⟨call, hrun⟩ := h.run_replaceTenant hn
  refine ⟨call, hrun.trans ?_⟩
  cases ht : c.tenants.get? key with
  | none => rfl
  | some t =>
    obtain ⟨k, -, hv, hlatest⟩ := h.latestOf_eq ht
    have hother : (Json.ofOption (body.metadatum "resourceVersion")).same (.str (toString k)) =
        false := by
      rw [Bool.eq_false_iff]
      intro hsame
      have hseen := Json.same_str.1 hsame
      cases hb : body.metadatum "resourceVersion" with
      | none => simp [hb, Json.ofOption] at hseen
      | some v =>
        obtain rfl : v = .str (toString k) := by simpa [hb, Json.ofOption] using hseen
        exact hne t ht (hv.trans hb.symm)
    simp only [hlatest, hother, Bool.false_eq_true, if_false, Option.isSome_some, if_true]

/-- A body of the same version is taken. -/
theorem run_replaceTenant_of_eq (h : Numbered c) {body : Json} {key : TenantKey}
    (hn : body.IsNamed key) {t : StoredTenant} (ht : c.tenants.get? key = some t)
    (heq : body.metadatum "resourceVersion" = t.body.metadatum "resourceVersion") :
    ∃ call, (MemoryCluster.replaceTenant body).run c =
      (.ok (body.withVersion c.version),
        (c.noting call).taking key t (body.withVersion c.version)) := by
  obtain ⟨call, hrun⟩ := h.run_replaceTenant hn
  refine ⟨call, hrun.trans ?_⟩
  obtain ⟨k, -, hv, hlatest⟩ := h.latestOf_eq ht
  have hsame : (Json.ofOption (body.metadatum "resourceVersion")).same (.str (toString k)) = true :=
    Json.same_str.2 (by rw [heq, hv]; rfl)
  simp only [ht, hlatest, hsame, if_true]

end Numbered

/-! ## Calls and what they keep -/

namespace MemoryCluster

variable {c₀ : MemoryCluster}

theorem readTenant_since (name : Json) : Task.Keeps (Since c₀) (readTenant name) := by
  intro c h
  rw [run_readTenant]
  exact h.step (.noting c _)

theorem delete_since (kind : Kind) (name : String) (ns : Option String) :
    Task.Keeps (Since c₀) (delete kind name ns) := by
  intro c h
  have hnoted := h.step (.noting c (.deleting ⟨kind, ns, name⟩))
  rw [run_delete]
  cases c.failureOf (.deleting ⟨kind, ns, name⟩) with
  | some fault => exact hnoted
  | none => exact hnoted.step (.emptied _ _)

/-- Whatever body is sent, what is stored then is the tenant of before, or it is new. -/
theorem replaceTenant_since (body : Json) : Task.Keeps (Since c₀) (replaceTenant body) := by
  intro c h
  by_cases hn : ∃ key, body.IsNamed key
  · obtain ⟨key, hn⟩ := hn
    obtain ⟨call, hrun⟩ := h.numbered.run_replaceTenant hn
    rw [hrun]
    have hnoted := h.step (.noting c call)
    split
    · exact hnoted
    · split
      · exact hnoted
      · split
        · exact hnoted.step (.taking _ hn)
        · exact hnoted
  · -- A body without a name for a tenant gets no further than the look for one.
    rw [replaceTenant, Task.run_bind, Task.run_ofExcept]
    cases hmd : body.entry "metadata" with
    | error fault => exact h
    | ok metadata =>
      simp only [Task.run_bind, Task.run_ofExcept]
      cases hname : metadata.entry "name" with
      | error fault => exact h
      | ok name =>
        cases hkey : TenantKey.of name with
        | ok key =>
          refine absurd ⟨key, name, ?_, hkey⟩ hn
          rw [Json.metadatum, Json.entry_eq_ok.1 hmd]
          exact Json.entry_eq_ok.1 hname
        | error fault =>
          have hnoted := h.step (.noting c ⟨.replaceTenant, none, name⟩)
          simp only [run_record, run_meetFailure, noting_failures, h.numbered.unfailing,
            run_tenant?, hkey]
          exact hnoted

theorem closeNamespace_since (s : Settings) (id : String) :
    Task.Keeps (fun w : World MemoryCluster => Since c₀ w.cluster) (closeNamespace s id) := by
  refine Task.keeps_bind (Job.keeps_call (delete_since _ _ _)) fun deleted => ?_
  split
  · exact Task.keeps_bind (Job.keeps_log _ _ _) fun _ => Task.keeps_pure _
  · exact Task.keeps_bind (Job.keeps_log _ _ _) fun _ => Task.keeps_pure _

theorem guardTenant_since (op : Operator) (body : Json) :
    Task.Keeps (fun w : World MemoryCluster => Since c₀ w.cluster) (op.guardTenant body) := by
  refine Task.keeps_bind (Task.keeps_ofExcept _) fun metadata => ?_
  refine Task.keeps_bind (Task.keeps_ofExcept _) fun name => ?_
  refine Task.keeps_bind (Task.keeps_ofExcept _) fun finalizers => ?_
  split
  · exact Task.keeps_pure _
  · exact Task.keeps_bind (Job.keeps_log _ _ _) fun _ => Job.keeps_call (replaceTenant_since _)

theorem cleanUp_since (op : Operator) (body : Json) :
    Task.Keeps (fun w : World MemoryCluster => Since c₀ w.cluster) (op.cleanUp body) := by
  refine Task.keeps_bind (Task.keeps_ofExcept _) fun metadata => ?_
  refine Task.keeps_bind (Task.keeps_ofExcept _) fun name => ?_
  refine Task.keeps_bind (Job.keeps_log _ _ _) fun _ => ?_
  refine Task.keeps_bind (closeNamespace_since _ _) fun _ => ?_
  refine Task.keeps_bind (Task.keeps_ofExcept _) fun finalizers => ?_
  refine Task.keeps_bind (Job.keeps_call (replaceTenant_since _)) fun released => ?_
  exact Task.keeps_bind (Job.keeps_log _ _ _) fun _ => Task.keeps_pure _

/-! ## What happens from outside -/

/-- A tenant comes in with a new version, or nothing does. -/
theorem enrol_since (body : Json) : Task.Keeps (Since c₀) (enrol body) := by
  intro c h
  rw [enrol, Task.run_bind, Task.run_ofExcept]
  cases hfields : fieldsToFill body with
  | error fault => exact h
  | ok fields =>
    simp only [Task.run_bind, Task.run_ofExcept]
    cases hmd : fieldsToFill (.ofOption (Fields.get? "metadata" (fill "metadata" (.obj []) fields)))
      with
    | error fault => exact h
    | ok md =>
      have hcounted : Since c₀ ({ c with nextUid := c.nextUid + 1 } : MemoryCluster).counting :=
        h.step (.of_tenants_eq rfl (Nat.le_succ _) rfl)
      have hversion : ({ c with nextUid := c.nextUid + 1 } : MemoryCluster).version = c.version :=
        rfl
      simp only [Task.run_state, Task.run_update, run_newVersion_eq, hversion]
      generalize hfull : fill "generation" _ _ = full
      cases hname : (Json.obj (Fields.set "resourceVersion" c.version full)).entry "name" with
      | error fault => exact hcounted
      | ok name =>
        simp only [Task.run_bind, storeTenant, Task.run_ofExcept]
        cases hkey : TenantKey.of name with
        | error fault => exact hcounted
        | ok key =>
          refine h.step (.stored rfl rfl rfl ⟨name, ?_, hkey⟩ ?_)
          · rw [Json.metadatum, Json.get?_obj, Fields.get?_set_self]
            exact Json.entry_eq_ok.1 hname
          · rw [Json.HasVersion, Json.metadatum, Json.get?_obj, Fields.get?_set_self]
            exact Fields.get?_set_self _ _ _

/-- A tenant whose deletion is requested goes, or it is stored with a new version. -/
theorem run_retire {c : MemoryCluster} (h : Numbered c) {name : Json} {key : TenantKey}
    (hk : TenantKey.of name = .ok key) :
    let d := ((retire name).run c).2
    (d = c ∧ c.tenants.get? key = none) ∨ d = { c with tenants := c.tenants.erase key } ∨
      ∃ t, d = { c.counting with tenants := c.tenants.insert key t } ∧ t.body.IsNamed key ∧
        t.body.HasVersion c.nextVersion := by
  rw [retire, Task.run_bind, run_storedTenant, hk]
  cases hc : c.tenants.get? key with
  | none =>
    simp only [hc]
    exact .inl ⟨trivial, trivial⟩
  | some kept =>
    obtain ⟨fields, md, found, hbody, hmd, hname, hkey⟩ :=
      Json.IsNamed.obj (h.named key kept hc)
    simp only [hc, hbody, Json.entry_eq_ok.2 (Json.get?_obj _ fields ▸ hmd), Json.field_obj,
      Task.run_bind, Task.run_ofExcept]
    by_cases ht : (Json.ofOption (Fields.get? "finalizers" md)).isTruthy = true
    · have hcounted : c.counting.tenants.get? key = some kept := hc
      rw [if_pos ht, Task.run_bind_ok (run_newVersion_eq c),
        run_storeTenant_of_get? _ hk hcounted]
      refine .inr (.inr ⟨_, rfl, ⟨found, ?_, hkey⟩, ?_⟩)
      · simp [Json.metadatum, Fields.get?_set, hname]
      · simp [Json.HasVersion, Json.metadatum, version]
    · rw [if_neg ht, dropTenant, Task.run_bind, Task.run_ofExcept, hk]
      exact .inr (.inl rfl)

theorem retire_since (name : Json) : Task.Keeps (Since c₀) (retire name) := by
  intro c h
  cases hk : TenantKey.of name with
  | error fault =>
    rw [retire, Task.run_bind, run_storedTenant, hk]
    exact h
  | ok key =>
    obtain ⟨hd, -⟩ | hd | ⟨t, hd, hn, hv⟩ := run_retire h.numbered hk
    · rw [hd]
      exact h
    · rw [hd]
      exact h.step (.dropped rfl Nat.le.refl rfl)
    · rw [hd]
      exact h.step (.stored rfl rfl rfl hn hv)

end MemoryCluster

/-! ## Sessions -/

/-- The steps that are about tenants: they come in, their deletions are requested, their bodies are
read and sent back, and the guard is put on and taken off. -/
def MemoryStep.IsOfTenants : MemoryStep → Prop
  | .enrol _ => True
  | .retire _ => True
  | .common (.readTenant _ _) => True
  | .common (.replaceTenant _) => True
  | .common (.guardTenant _ _) => True
  | .common (.cleanUp _) => True
  | _ => False

namespace Session

/-- The session after some steps, whatever they answer. -/
def after (s : Session MemoryCluster) (steps : List MemoryStep) : Session MemoryCluster :=
  steps.foldl (fun s step => ((performInMemory step).run s).2) s

theorem after_append (s : Session MemoryCluster) (steps more : List MemoryStep) :
    s.after (steps ++ more) = (s.after steps).after more := List.foldl_append

variable {c₀ : MemoryCluster} {α : Type}

theorem keeps_job {j : Job MemoryCluster α} (h : j.Keeps fun w => Since c₀ w.cluster) :
    Task.Keeps (fun s : Session MemoryCluster => Since c₀ s.world.cluster) (job j) :=
  Task.keeps_within h (fun _ hs => hs) (fun _ _ _ hw => hw)

theorem keeps_operator {f : Operator → Time.Instant → Job MemoryCluster α}
    (h : ∀ op now, (f op now).Keeps fun w => Since c₀ w.cluster) :
    Task.Keeps (fun s : Session MemoryCluster => Since c₀ s.world.cluster) (operate f) :=
  fun s hs => keeps_job (h s.operator s.clock) s hs

theorem keeps_body (b : Body) :
    Task.Keeps (fun s : Session MemoryCluster => Since c₀ s.world.cluster) (body b) := by
  intro s hs
  cases b with
  | given j => exact hs
  | kept slot =>
    rw [body, Task.run_bind_ok (Task.run_state s)]
    split <;> exact hs

theorem keeps_keep (slot : Option String) (j : Json) :
    Task.Keeps (fun s : Session MemoryCluster => Since c₀ s.world.cluster) (keep slot j) := by
  intro s hs
  cases slot <;> exact hs

/-- One step. -/
theorem performInMemory_since {step : MemoryStep} (hp : step.IsOfTenants) :
    Task.Keeps (fun s : Session MemoryCluster => Since c₀ s.world.cluster)
      (performInMemory step) := by
  cases step with
  | enrol b =>
    refine Task.keeps_bind (keeps_job (Job.keeps_call ?_)) fun _ => Task.keeps_pure _
    exact MemoryCluster.enrol_since b
  | retire name =>
    refine Task.keeps_bind (keeps_job (Job.keeps_call ?_)) fun _ => Task.keeps_pure _
    exact MemoryCluster.retire_since name
  | common step =>
    cases step with
    | readTenant name slot =>
      refine Task.keeps_bind (keeps_job (Job.keeps_call ?_)) fun found => ?_
      · exact MemoryCluster.readTenant_since name
      · exact Task.keeps_bind (keeps_keep _ _) fun _ => Task.keeps_pure _
    | replaceTenant b =>
      refine Task.keeps_bind (keeps_body b) fun j => ?_
      refine Task.keeps_bind (keeps_job (Job.keeps_call ?_)) fun _ => Task.keeps_pure _
      exact MemoryCluster.replaceTenant_since j
    | guardTenant b slot =>
      refine Task.keeps_bind (keeps_body b) fun j => ?_
      refine Task.keeps_bind (keeps_operator fun op _ => MemoryCluster.guardTenant_since op j) ?_
      intro stored
      exact Task.keeps_bind (keeps_keep _ _) fun _ => Task.keeps_pure _
    | cleanUp b =>
      refine Task.keeps_bind (keeps_body b) fun j => ?_
      refine Task.keeps_bind (keeps_operator fun op _ => MemoryCluster.cleanUp_since op j) ?_
      exact fun _ => Task.keeps_pure _
    | _ => exact hp.elim
  | _ => exact hp.elim

/-- A whole run. -/
theorem after_since {s : Session MemoryCluster} {steps : List MemoryStep}
    (hsteps : ∀ step ∈ steps, step.IsOfTenants) (h : Since c₀ s.world.cluster) :
    Since c₀ (s.after steps).world.cluster := by
  induction steps generalizing s with
  | nil => exact h
  | cons step rest ih =>
    obtain ⟨hstep, hrest⟩ := List.forall_mem_cons.1 hsteps
    exact ih hrest (performInMemory_since hstep s h)

/-- A run, and what is left of it from any point on. -/
theorem after_part {s : Session MemoryCluster} {part steps : List MemoryStep}
    (hp : part <+: steps) (hsteps : ∀ step ∈ steps, step.IsOfTenants)
    (h : Numbered s.world.cluster) :
    Since s.world.cluster (s.after part).world.cluster ∧
      Since (s.after part).world.cluster (s.after steps).world.cluster := by
  obtain ⟨rest, rfl⟩ := hp
  have hpart : Since s.world.cluster (s.after part).world.cluster :=
    after_since (fun step hstep => hsteps step (List.mem_append_left _ hstep)) ⟨h, .refl _⟩
  refine ⟨hpart, ?_⟩
  rw [after_append]
  exact after_since (fun step hstep => hsteps step (List.mem_append_right _ hstep))
    ⟨hpart.numbered, .refl _⟩

/-- The version that a run would give out next was never that of a tenant. -/
theorem ne_version_of_part {s : Session MemoryCluster} {part steps : List MemoryStep}
    (hp : part <+: steps) (hsteps : ∀ step ∈ steps, step.IsOfTenants)
    (h : Numbered s.world.cluster) {key : TenantKey} {t : StoredTenant}
    (ht : (s.after part).world.cluster.tenants.get? key = some t) :
    t.body.metadatum "resourceVersion" ≠ some (s.after steps).world.cluster.version := by
  intro hsame
  obtain ⟨hpart, hrest⟩ := after_part hp hsteps h
  obtain ⟨k, hk, hv⟩ := hpart.numbered.versioned ht
  have hnew : t.body.HasVersion (s.after steps).world.cluster.nextVersion := hsame
  have := hv.unique hnew
  have := hrest.ages.later
  omega

end Session

end MoodleTenancy
