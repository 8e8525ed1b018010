import MoodleTenancy.Cluster.Memory
import MoodleTenancy.Proofs.TenantBody

/-!
# Calls to a cluster in memory

Each call as one equation: the answer, and the cluster after it.

* `Call.reading`, `Call.creating` and their kin: what is recorded of the calls.
* `MemoryCluster.noting`: a cluster after a call is recorded.
* `MemoryCluster.holding`, `emptied`, `replaced`: a cluster with one more object, without a
  namespace, with a tenant's new body.
* `MemoryCluster.refusal`: why a body is not taken in place of a stored one.
* `run_read`, `run_create`, `run_delete`, `run_readTenant`, `run_replaceTenant`: the calls.
-/

namespace MoodleTenancy
set_option autoImplicit false

/-! ## What is recorded -/

namespace Call

def reading (k : ObjectKey) : Call := ⟨.read, some k.kind, .str k.name⟩

def creating (k : ObjectKey) : Call := ⟨.create, some k.kind, .str k.name⟩

def deleting (k : ObjectKey) : Call := ⟨.delete, some k.kind, .str k.name⟩

def readingTenant (name : Json) : Call := ⟨.readTenant, none, name⟩

def replacingTenant (name : String) : Call := ⟨.replaceTenant, none, .str name⟩

end Call

namespace MemoryCluster

variable (c : MemoryCluster)

def noting (call : Call) : MemoryCluster := { c with calls := c.calls ++ [call] }

def failureOf (call : Call) : Option Fault := c.failures.get? (call.verb, call.kind)

def holding (m : Manifest) : MemoryCluster := { c with objects := c.objects.insert m.key m }

/-- The cluster after a deletion of the object under a key, if there is one. -/
def emptied (key : ObjectKey) : MemoryCluster :=
  match c.objects.get? key with
  | none => c
  | some _ => { c with objects := without key c.objects }

/-- The form of a name in which a tenant is kept under it, or would be. -/
def nameAt (name : String) : Json :=
  ((c.tenants.get? (.text name)).map StoredTenant.name).getD (.str name)

def version : Json := .str (toString c.nextVersion)

/-- The table of tenants with a body in place of the one that a name has, or without the name if
nothing keeps the body. -/
def tenantsWith (name : String) (current : StoredTenant) (body : Json) :
    Table TenantKey StoredTenant :=
  if isReleased (.ofOption (body.get? "metadata")) then c.tenants.erase (.text name)
  else c.tenants.insert (.text name) ⟨current.name, body⟩

/-- The cluster after a body is taken in place of the one that a name has. -/
def replaced (name : String) (current : StoredTenant) (body : Json) : MemoryCluster :=
  { c with
    nextVersion := c.nextVersion + 1
    tenants := c.tenantsWith name current body }

/-- What the version of a body has to be to take the place of a stored one. -/
def latestOf (current : StoredTenant) : Except Fault Json :=
  (current.body.entry "metadata").bind (Json.entry "resourceVersion")

/-- Why a body is not taken in place of the one that its name has, if it is not. -/
def refusal (name : String) (body : Json) : Option Fault :=
  match c.failureOf (.replacingTenant name), c.tenants.get? (.text name) with
  | some fault, _ => some fault
  | none, none => some .notFound
  | none, some current =>
    match latestOf current with
    | .error fault => some fault
    | .ok latest =>
      if (Json.ofOption (body.metadatum "resourceVersion")).same latest
      then none
      else some .conflict

section Fields

variable (call other : Call) (m : Manifest) (key : ObjectKey) (name : String)
  (current : StoredTenant) (body : Json)

@[simp] theorem noting_calls : (c.noting call).calls = c.calls ++ [call] := rfl
@[simp] theorem noting_objects : (c.noting call).objects = c.objects := rfl
@[simp] theorem noting_tenants : (c.noting call).tenants = c.tenants := rfl
@[simp] theorem noting_failures : (c.noting call).failures = c.failures := rfl

@[simp] theorem holding_calls : (c.holding m).calls = c.calls := rfl
@[simp] theorem holding_objects : (c.holding m).objects = c.objects.insert m.key m := rfl

@[simp] theorem emptied_calls : (c.emptied key).calls = c.calls := by
  simp only [emptied]; split <;> rfl
@[simp] theorem emptied_tenants : (c.emptied key).tenants = c.tenants := by
  simp only [emptied]; split <;> rfl
@[simp] theorem emptied_failures : (c.emptied key).failures = c.failures := by
  simp only [emptied]; split <;> rfl
@[simp] theorem emptied_patches : (c.emptied key).patches = c.patches := by
  simp only [emptied]; split <;> rfl

@[simp] theorem replaced_calls : (c.replaced name current body).calls = c.calls := rfl
@[simp] theorem replaced_tenants :
    (c.replaced name current body).tenants = c.tenantsWith name current body := rfl

@[simp] theorem failureOf_noting : (c.noting call).failureOf other = c.failureOf other := rfl
@[simp] theorem failureOf_emptied : (c.emptied key).failureOf other = c.failureOf other := by
  simp [failureOf]

@[simp] theorem refusal_noting : (c.noting call).refusal name body = c.refusal name body := rfl
@[simp] theorem refusal_emptied : (c.emptied key).refusal name body = c.refusal name body := by
  simp [refusal]

end Fields

/-- A deletion leaves what is neither the object nor in it. -/
theorem get?_emptied (key k : ObjectKey) :
    (c.emptied key).objects.get? k =
      if (c.objects.get? key).isSome ∧
        (k = key ∨ key.kind = .namespaceKind ∧ k.namespaceName = some key.name)
      then none else c.objects.get? k := by
  simp only [emptied]
  cases h : c.objects.get? key with
  | none => simp
  | some m =>
    by_cases hk : key.kind = .namespaceKind
    · simp only [without, hk, if_true, Table.get?_eraseWhere, Table.get?_erase,
        decide_eq_true_eq, Option.isSome_some, true_and]
      by_cases hn : k.namespaceName = some key.name <;> by_cases he : k = key <;> simp [hn, he]
    · simp [without, hk, Table.get?_erase]

theorem get?_emptied_self (key : ObjectKey) : (c.emptied key).objects.get? key = none := by
  rw [get?_emptied]
  split
  · rfl
  · rename_i h
    cases hk : c.objects.get? key with
    | none => rfl
    | some m => exact absurd ⟨by rw [hk]; rfl, .inl rfl⟩ h

end MemoryCluster

/-- A property that the changes made by calls of a pass keep. -/
structure Lasts (P : MemoryCluster → Prop) : Prop where
  noting {c : MemoryCluster} (call : Call) : P c → P (c.noting call)
  holding {c : MemoryCluster} (m : Manifest) : P c → P (c.holding m)
  emptied {c : MemoryCluster} (key : ObjectKey) : P c → P (c.emptied key)
  replaced {c : MemoryCluster} (name : String) (current : StoredTenant) (body : Json) :
    P c → P (c.replaced name current body)

namespace Lasts

theorem failures (f : Table (Verb × Option Kind) Fault) : Lasts fun c => c.failures = f where
  noting _ h := h
  holding _ h := h
  emptied key h := by rw [MemoryCluster.emptied_failures, h]
  replaced _ _ _ h := h

theorem patches (ps : List (Json × Json)) : Lasts fun c => c.patches = ps where
  noting _ h := h
  holding _ h := h
  emptied key h := by rw [MemoryCluster.emptied_patches, h]
  replaced _ _ _ h := h

/-- Calls are added behind those that were made. -/
theorem calls (cs : List Call) : Lasts fun c => cs <+: c.calls where
  noting call h := h.trans (List.prefix_append _ [call])
  holding _ h := h
  emptied key h := by rwa [MemoryCluster.emptied_calls]
  replaced _ _ _ h := h

end Lasts

namespace MemoryCluster

variable (c : MemoryCluster)

/-! ## Calls -/

theorem run_record (verb : Verb) (kind : Option Kind) (name : Json) :
    (record verb kind name).run c = (.ok (), c.noting ⟨verb, kind, name⟩) := rfl

theorem run_meetFailure (verb : Verb) (kind : Option Kind) :
    (meetFailure verb kind).run c =
      match c.failures.get? (verb, kind) with
      | some fault => (.error fault, c)
      | none => (.ok (), c) := by
  rw [meetFailure, Task.run_bind_ok (Task.run_state c)]
  cases c.failures.get? (verb, kind) <;> rfl

theorem run_read (kind : Kind) (name : String) (ns : Option String) :
    (read kind name ns).run c =
      (match c.failureOf (.reading ⟨kind, ns, name⟩) with
        | some fault => .error fault
        | none => .ok ((c.objects.get? ⟨kind, ns, name⟩).map Manifest.object),
        c.noting (.reading ⟨kind, ns, name⟩)) := by
  rw [read, Task.run_bind_ok (c.run_record _ _ _), Task.run_bind, run_meetFailure]
  simp only [noting_failures, failureOf, Call.reading]
  cases c.failures.get? (.read, some kind) <;> rfl

theorem run_create (m : Manifest) :
    (create m.key.kind m).run c =
      match c.failureOf (.creating m.key), c.objects.get? m.key with
      | some fault, _ => (.error fault, c.noting (.creating m.key))
      | none, some _ => (.error .alreadyExists, c.noting (.creating m.key))
      | none, none => (.ok m.document, (c.noting (.creating m.key)).holding m) := by
  rw [create, Task.run_bind_ok (c.run_record _ _ _), Task.run_bind, run_meetFailure]
  simp only [noting_failures, failureOf, Call.creating]
  cases c.failures.get? (.create, some m.key.kind) with
  | some fault => rfl
  | none =>
    simp only [Task.run_bind_ok (Task.run_state _), noting_objects]
    cases c.objects.get? m.key <;> rfl

theorem run_delete (kind : Kind) (name : String) (ns : Option String) :
    (delete kind name ns).run c =
      match c.failureOf (.deleting ⟨kind, ns, name⟩) with
      | some fault => (.error fault, c.noting (.deleting ⟨kind, ns, name⟩))
      | none =>
        (.ok (c.objects.get? ⟨kind, ns, name⟩).isSome,
          (c.noting (.deleting ⟨kind, ns, name⟩)).emptied ⟨kind, ns, name⟩) := by
  rw [delete, Task.run_bind_ok (c.run_record _ _ _), Task.run_bind, run_meetFailure]
  simp only [noting_failures, failureOf, Call.deleting]
  cases c.failures.get? (.delete, some kind) with
  | some fault => rfl
  | none =>
    simp only [Task.run_bind_ok (Task.run_state _), noting_objects, emptied]
    cases c.objects.get? ⟨kind, ns, name⟩ <;> rfl

theorem run_tenant? (name : Json) :
    (tenant? name).run c =
      ((TenantKey.of name).map fun key => (c.tenants.get? key).map StoredTenant.body, c) := by
  rw [tenant?, Task.run_bind, Task.run_ofExcept]
  cases TenantKey.of name <;> rfl

theorem run_readTenant (name : Json) :
    (readTenant name).run c =
      (match c.failureOf (.readingTenant name) with
        | some fault => .error fault
        | none => (TenantKey.of name).map fun key => (c.tenants.get? key).map StoredTenant.body,
        c.noting (.readingTenant name)) := by
  rw [readTenant, Task.run_bind_ok (c.run_record _ _ _), Task.run_bind, run_meetFailure]
  simp only [noting_failures, failureOf, Call.readingTenant]
  cases c.failures.get? (.readTenant, none) with
  | some fault => rfl
  | none => exact run_tenant? _ _

theorem run_storeTenant (name : String) (body : Json) :
    (storeTenant (.str name) body).run c =
      (.ok (), { c with tenants := c.tenants.insert (.text name) ⟨c.nameAt name, body⟩ }) := rfl

theorem run_dropTenant (name : String) :
    (dropTenant (.str name)).run c =
      (.ok (), { c with tenants := c.tenants.erase (.text name) }) := rfl

theorem run_newVersion :
    newVersion.run c = (.ok c.version, { c with nextVersion := c.nextVersion + 1 }) := rfl

/-- A body whose metadata can be read takes the place of the stored one, with a new version, unless
it is refused. -/
theorem run_replaceTenant {body : Json} {m : Metadata} (h : metadataOf body = .ok m) :
    (replaceTenant body).run c =
      match c.refusal m.name body, c.tenants.get? (.text m.name) with
      | none, some current =>
        (.ok (body.withVersion c.version),
          (c.noting (.replacingTenant m.name)).replaced m.name current
            (body.withVersion c.version))
      | none, none => (.error .notFound, c.noting (.replacingTenant m.name))
      | some fault, _ => (.error fault, c.noting (.replacingTenant m.name)) := by
  obtain ⟨fields, md, rfl, hg, ha⟩ := metadataOf_eq_ok.1 h
  have hn := get?_name_of_accepted ha
  have hmd : (Task.ofExcept ((Json.obj fields).entry "metadata")).run c = (.ok (.obj md), c) := by
    simp [Json.entry, hg]
  have hname : (Task.ofExcept ((Json.obj md).entry "name")).run c = (.ok (.str m.name), c) := by
    simp [Json.entry, hn]
  have hstored : (Json.obj fields).set "metadata" ((Json.obj md).set "resourceVersion" c.version) =
      (Json.obj fields).withVersion c.version := by
    simp [Json.withVersion, Json.setMetadata, hg, Json.ofOption]
  have hnew : ((Json.obj fields).withVersion c.version).get? "metadata" =
      some ((Json.obj md).set "resourceVersion" c.version) :=
    Json.get?_metadata_setMetadata hg _ _
  rw [replaceTenant, Task.run_bind_ok hmd, Task.run_bind_ok hname,
    Task.run_bind_ok (c.run_record _ _ _), Task.run_bind, run_meetFailure]
  simp only [noting_failures, refusal, failureOf, Call.replacingTenant, Json.metadatum]
  cases c.failures.get? (.replaceTenant, none) with
  | some fault => rfl
  | none =>
    simp only [Task.run_bind, run_tenant?, TenantKey.of_str, Except.map, noting_tenants]
    cases hcur : c.tenants.get? (.text m.name) with
    | none => rfl
    | some current =>
      simp only [Option.map_some, Task.run_bind, Task.run_ofExcept, Json.field_obj, latestOf,
        Json.get?_obj, hg, Option.bind_some]
      cases (current.body.entry "metadata").bind (Json.entry "resourceVersion") with
      | error fault => rfl
      | ok latest =>
        by_cases hs : (Json.ofOption (Fields.get? "resourceVersion" md)).same latest = true
        · simp only [hs, if_true, Task.run_bind, run_newVersion]
          have hv : (c.noting ⟨.replaceTenant, none, .str m.name⟩).version = c.version := rfl
          have hrel : isReleased
              (.ofOption (((Json.obj fields).withVersion c.version).get? "metadata")) =
              isReleased ((Json.obj md).set "resourceVersion" c.version) := by
            rw [hnew]
            rfl
          simp only [hv, hstored]
          by_cases hr : isReleased ((Json.obj md).set "resourceVersion" c.version) = true
          · simp only [hr, if_true, Task.run_bind, run_dropTenant, Task.run_pure, replaced,
              tenantsWith, hrel]
          · rw [Bool.not_eq_true] at hr
            simp only [hr, Bool.false_eq_true, if_false, Task.run_bind, run_storeTenant,
              Task.run_pure, replaced, tenantsWith, hrel, nameAt, noting_tenants, hcur]
            rfl
        · rw [Bool.not_eq_true] at hs
          simp only [hs, Bool.false_eq_true, if_false]
          rfl

def patching (name patch : Json) : MemoryCluster :=
  { c with patches := c.patches ++ [(name, patch)] }

def rewritten (key : TenantKey) (kept : StoredTenant) (body : Json) : MemoryCluster :=
  { c with tenants := c.tenants.insert key ⟨kept.name, body⟩ }

theorem run_storeTenant_of_get? {name : Json} {key : TenantKey} {kept : StoredTenant}
    (hk : TenantKey.of name = .ok key) (hc : c.tenants.get? key = some kept) (body : Json) :
    (storeTenant name body).run c = (.ok (), c.rewritten key kept body) := by
  simp only [storeTenant, Task.run_bind, Task.run_ofExcept, hk, Task.run_state, hc,
    Option.map_some, Option.getD_some, Task.run_update, rewritten]

def statusFields (body : Json) : Except Fault Fields :=
  match (body.get? "status").getD (.obj []) with
  | .obj fields => .ok fields
  | status => .error (.lacks status.kindName "update")

/-- A patch is laid over the status of the stored tenant, as far as that goes. -/
theorem run_patchTenantStatus (name patch : Json) :
    (patchTenantStatus name patch).run c =
      match c.failures.get? (.patchTenantStatus, none), TenantKey.of name with
      | some fault, _ => (.error fault, c.patching name patch)
      | none, .error fault => (.error fault, c.patching name patch)
      | none, .ok key =>
        match c.tenants.get? key with
        | none => (.error .notFound, c.patching name patch)
        | some kept =>
          match statusFields kept.body with
          | .error fault => (.error fault, c.patching name patch)
          | .ok fields =>
            ((Fields.absorb patch fields).2, (c.patching name patch).rewritten key kept
              (kept.body.set "status" (.obj (Fields.absorb patch fields).1))) := by
  rw [patchTenantStatus, Task.run_bind_ok (Task.run_update _ _), Task.run_bind, run_meetFailure]
  cases c.failures.get? (.patchTenantStatus, none) with
  | some fault => rfl
  | none =>
    simp only [Task.run_bind, run_tenant?]
    cases hk : TenantKey.of name with
    | error fault => rfl
    | ok key =>
      simp only [Except.map]
      cases ht : c.tenants.get? key with
      | none => rfl
      | some kept =>
        simp only [Option.map_some, statusFields]
        cases (kept.body.get? "status").getD (.obj []) with
        | obj fields =>
          have hstore := (c.patching name patch).run_storeTenant_of_get? hk ht
            (kept.body.set "status" (.obj (Fields.absorb patch fields).1))
          rw [patching] at hstore
          simp only [Task.run_bind, hstore, Task.run_ofExcept]
          rfl
        | _ => rfl

/-- A patch is recorded, and it changes no more than the status of the tenant. -/
theorem cluster_patchTenantStatus (name patch : Json) :
    ((patchTenantStatus name patch).run c).2 = c.patching name patch ∨
      ∃ key kept status, TenantKey.of name = .ok key ∧ c.tenants.get? key = some kept ∧
        ((patchTenantStatus name patch).run c).2 =
          (c.patching name patch).rewritten key kept (kept.body.set "status" status) := by
  rw [run_patchTenantStatus]
  cases c.failures.get? (.patchTenantStatus, none) with
  | some fault => exact .inl rfl
  | none =>
    cases TenantKey.of name with
    | error fault => exact .inl rfl
    | ok key =>
      cases hk : c.tenants.get? key with
      | none =>
        simp only [hk]
        exact .inl trivial
      | some kept =>
        simp only [hk]
        cases statusFields kept.body with
        | error fault => exact .inl rfl
        | ok fields => exact .inr ⟨key, kept, _, rfl, hk, rfl⟩

/-- The version that stands in valid metadata is that version. -/
theorem same_of_metadatum_version {body : Json} {m : Metadata} (h : metadataOf body = .ok m)
    {v : Json} (hv : body.metadatum "resourceVersion" = some v) : v.same v = true := by
  obtain ⟨fields, md, rfl, hg, ha⟩ := metadataOf_eq_ok.1 h
  obtain ⟨-, -, hr, -⟩ := Validation.metadataFields_eq_accepted.1 ha
  simp only [Json.metadatum, Json.get?_obj, hg, Option.bind_some] at hv
  have hval : Validation.Field.value? ⟨"resourceVersion", "resource_version"⟩ md = some v := by
    simp [Validation.Field.value?, Validation.Field.find?, hv]
  rw [Validation.Field.optional_eq_accepted, hval] at hr
  obtain ⟨hn, -⟩ | ⟨u, hu, hr⟩ := hr
  · exact absurd hn (by simp)
  rw [← Option.some.inj hu, Validation.nullable_text_eq_accepted] at hr
  subst hr
  cases m.resourceVersion <;> simp [Json.ofText?, Json.ofOption, Json.same]

/-- A body is taken if nothing fails and it has the version of the stored one. -/
theorem refusal_eq_none {c : MemoryCluster} {name : String} {current : StoredTenant}
    {body v : Json} (hf : c.failureOf (.replacingTenant name) = none)
    (hc : c.tenants.get? (.text name) = some current)
    (hcurrent : current.body.metadatum "resourceVersion" = some v)
    (hbody : body.metadatum "resourceVersion" = some v) (hs : v.same v = true) :
    c.refusal name body = none := by
  have hlatest : latestOf current = .ok v := by
    rw [Json.metadatum, Option.bind_eq_some_iff] at hcurrent
    obtain ⟨md, hmd, hv⟩ := hcurrent
    rw [latestOf, Json.entry_eq_ok.2 hmd]
    exact Json.entry_eq_ok.2 hv
  simp [refusal, hf, hc, hlatest, hbody, Json.ofOption, hs]

/-- What is dropped is marked for deletion and has no finalizers. -/
theorem marked_of_isReleased {body : Json} {m : Metadata} (h : metadataOf body = .ok m)
    (hr : isReleased (.ofOption (body.get? "metadata")) = true) :
    m.isMarked = true ∧ m.finalizers = [] := by
  have hmarked : (Json.ofOption (body.metadatum "deletionTimestamp")).isTruthy = true →
      m.isMarked = true := isMarked_of_isTruthy h
  obtain ⟨fields, md, rfl, hg, ha⟩ := metadataOf_eq_ok.1 h
  simp only [isReleased, Json.metadatum, Json.get?_obj, hg, Json.ofOption, Option.getD_some,
    Option.bind_some, Bool.and_eq_true, Bool.not_eq_true'] at hr hmarked
  obtain ⟨hd, hf⟩ := hr
  refine ⟨hmarked hd, ?_⟩
  obtain ⟨-, he⟩ | hs := get?_finalizers_of_accepted ha
  · exact he
  · rw [hs] at hf
    cases hfs : m.finalizers with
    | nil => rfl
    | cons f rest => simp [hfs, Json.strings, Json.isTruthy] at hf

theorem get?_fill_ne {key k : String} (h : key ≠ k) (default : Json) (fields : Fields) :
    Fields.get? k (fill key default fields) = Fields.get? k fields := by
  have hk : (Key.text key).identity ≠ (Key.text k).identity := by simpa using h
  rw [fill]
  split
  · rfl
  · exact Fields.get?_set_ne hk _ _

/-- A tenant comes in under its name. -/
theorem run_enrol (c : MemoryCluster) {n : String} {body : Json}
    (hn : body.metadatum "name" = some (.str n)) :
    ∃ stored, stored.metadatum "name" = some (.str n) ∧ ((enrol body).run c).2 =
      { c with
        nextUid := c.nextUid + 1
        nextVersion := c.nextVersion + 1
        tenants := c.tenants.insert (.text n) ⟨c.nameAt n, stored⟩ } := by
  obtain ⟨fields, md, rfl, hmd, hname⟩ := Json.metadatum_eq_some hn
  have hfields : fill "metadata" (.obj []) fields = fields := by rw [fill, hmd]
  have hfilled : Fields.get? "name" (Fields.set "resourceVersion" c.version (fill "generation"
      (.int 1) (fill "uid" (.str ("uid-" ++ toString c.nextUid)) md))) = some (.str n) := by
    rw [Fields.get?_set_ne (by decide), get?_fill_ne (by decide), get?_fill_ne (by decide), hname]
  have hversion : ({ c with nextUid := c.nextUid + 1 } : MemoryCluster).version = c.version := rfl
  simp only [enrol, fieldsToFill, Task.run_bind, Task.run_ofExcept, hfields, hmd, Json.ofOption,
    Option.getD_some, Task.run_state, Task.run_update, run_newVersion, Json.entry, hversion,
    hfilled, run_storeTenant]
  refine ⟨_, ?_, rfl⟩
  rw [Json.metadatum, Json.get?_obj, Fields.get?_set_self]
  exact hfilled

/-- The cluster after tenants came in one after the other. -/
def joinedBy (c : MemoryCluster) (bodies : List Json) : MemoryCluster :=
  bodies.foldl (fun c body => ((enrol body).run c).2) c

def withPlainTenant (name : String) : MemoryCluster := joinedBy {} [plainTenant name]

end MemoryCluster
end MoodleTenancy
