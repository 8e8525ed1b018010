import MoodleTenancy.Proofs.Disguise

/-!
# Calls on clusters with specs in disguise

Each call to a cluster ends alike on two that differ in such specs, and in secrets made of them.

* `Disguise.Kept`: bodies that are found under a name.
* `Disguise.read_couples`, `create_couples`, `delete_couples`: calls about objects.
* `Disguise.readTenant_couples`, `replaceTenant_couples`, `patchTenantStatus_couples`: calls about
  tenants.
-/

namespace MoodleTenancy
set_option autoImplicit false

namespace Disguise

variable {D : Disguise}

theorem isSome_of_rel {α : Type} {R : α → α → Prop} {o o' : Option α} (h : Option.Rel R o o') :
    o'.isSome = o.isSome := by
  cases h with
  | none => rfl
  | some _ => rfl

/-! ## Calls about objects -/

theorem record_couples (verb : Verb) (kind : Option Kind) (name : Json) :
    Task.Couples D.Clusters Eq (MemoryCluster.record verb kind name)
      (MemoryCluster.record verb kind name) :=
  .update fun _ _ h => { h with calls := by rw [h.calls] }

theorem meetFailure_couples (verb : Verb) (kind : Option Kind) :
    Task.Couples D.Clusters Eq (MemoryCluster.meetFailure verb kind)
      (MemoryCluster.meetFailure verb kind) := by
  refine .bind .state fun c c' h => ?_
  rw [h.failures]
  cases c.failures.get? (verb, kind) with
  | some fault => exact .fail fault
  | none => exact .pure rfl

theorem read_couples (kind : Kind) (name : String) (ns : Option String) :
    Task.Couples D.Clusters (fun o o' => o'.isSome = o.isSome) (MemoryCluster.read kind name ns)
      (MemoryCluster.read kind name ns) := by
  refine .bind (record_couples _ _ _) fun _ _ _ => .bind (meetFailure_couples _ _) fun _ _ _ => ?_
  refine .bind .state fun c c' h => .pure ?_
  rw [Option.isSome_map, Option.isSome_map]
  exact isSome_of_rel (h.objects ⟨kind, ns, name⟩)

theorem Clusters.objects_insert {c c' : MemoryCluster} (h : D.Clusters c c') {m m' : Manifest}
    (hm : D.Manifests m m') (key : ObjectKey) :
    D.Clusters { c with objects := c.objects.insert key m }
      { c' with objects := c'.objects.insert key m' } where
  failures := h.failures
  calls := h.calls
  patches := h.patches
  nextVersion := h.nextVersion
  objects k := by
    rw [Table.get?_insert, Table.get?_insert]
    split
    · exact .some hm
    · exact h.objects k
  tenants := h.tenants
  others := h.others

theorem create_couples (kind : Kind) {m m' : Manifest} (hm : D.Manifests m m') :
    Task.Couples D.Clusters (fun _ _ => True) (MemoryCluster.create kind m)
      (MemoryCluster.create kind m') := by
  simp only [MemoryCluster.create, hm.key_eq]
  refine .bind (record_couples _ _ _) fun _ _ _ => .bind (meetFailure_couples _ _) fun _ _ _ => ?_
  refine .bind .state fun c c' h => ?_
  have hk := h.objects { m.key with kind := kind }
  generalize c.objects.get? _ = o at hk ⊢
  generalize c'.objects.get? _ = o' at hk ⊢
  cases hk with
  | some _ => exact .fail _
  | none =>
    refine .bind (.update fun _ _ h => h.objects_insert hm _) fun _ _ _ => ?_
    exact .pure trivial

theorem Clusters.without {c c' : MemoryCluster} (h : D.Clusters c c') (key : ObjectKey) :
    D.Clusters { c with objects := MemoryCluster.without key c.objects }
      { c' with objects := MemoryCluster.without key c'.objects } where
  failures := h.failures
  calls := h.calls
  patches := h.patches
  nextVersion := h.nextVersion
  objects k := by
    simp only [MemoryCluster.without]
    split
    · rw [Table.get?_eraseWhere, Table.get?_eraseWhere, Table.get?_erase, Table.get?_erase]
      split
      · exact .none
      · split
        · exact .none
        · exact h.objects k
    · rw [Table.get?_erase, Table.get?_erase]
      split
      · exact .none
      · exact h.objects k
  tenants := h.tenants
  others := h.others

theorem delete_couples (kind : Kind) (name : String) (ns : Option String) :
    Task.Couples D.Clusters Eq (MemoryCluster.delete kind name ns)
      (MemoryCluster.delete kind name ns) := by
  refine .bind (record_couples _ _ _) fun _ _ _ => .bind (meetFailure_couples _ _) fun _ _ _ => ?_
  refine .bind .state fun c c' h => ?_
  have hk := h.objects ⟨kind, ns, name⟩
  generalize c.objects.get? _ = o at hk ⊢
  generalize c'.objects.get? _ = o' at hk ⊢
  cases hk with
  | none => exact .pure rfl
  | some _ => exact .bind (.update fun _ _ h => h.without _) fun _ _ _ => .pure rfl

/-! ## Calls about tenants -/

/-- Bodies that are kept under a name. -/
structure Kept (D : Disguise) (name b b' : Json) : Prop where
  bodies : D.Bodies b b'
  same {key : TenantKey} : TenantKey.of name = .ok key → ¬ D.tenants key → b' = b

theorem Bodies.kept {b b' name : Json} (h : D.Bodies b b')
    (hn : b.metadatum "name" = some name) : D.Kept name b b' :=
  ⟨h, fun hkey hd => h.eq_of_not hn hkey hd⟩

theorem tenant?_couples (name : Json) :
    Task.Couples D.Clusters (Option.Rel (D.Kept name)) (MemoryCluster.tenant? name)
      (MemoryCluster.tenant? name) := by
  refine .bind (.ofExcept_eq rfl) ?_
  rintro key _ ⟨rfl, hkey⟩
  refine .bind .state fun c c' h => .pure ?_
  have ht := h.tenants key
  have ho := @h.others key
  generalize c.tenants.get? key = o at ht ho ⊢
  generalize c'.tenants.get? key = o' at ht ho ⊢
  cases ht with
  | none => exact .none
  | some hb =>
    refine .some ⟨hb.2, fun hkey' hd => ?_⟩
    obtain rfl := Except.ok.inj (hkey.symm.trans hkey')
    exact congrArg StoredTenant.body (Option.some.inj (ho hd))

theorem storeTenant_couples {name b b' : Json} (hb : D.Kept name b b') :
    Task.Couples D.Clusters Eq (MemoryCluster.storeTenant name b)
      (MemoryCluster.storeTenant name b') := by
  refine .bind (.ofExcept_eq rfl) ?_
  rintro key _ ⟨rfl, hkey⟩
  refine .bind .state fun c c' h => ?_
  have hname : (c'.tenants.get? key).map StoredTenant.name =
      (c.tenants.get? key).map StoredTenant.name := by
    have ht := h.tenants key
    generalize c.tenants.get? key = o at ht ⊢
    generalize c'.tenants.get? key = o' at ht ⊢
    cases ht with
    | none => rfl
    | some hb => exact congrArg some hb.1
  simp only [hname]
  refine .update fun d d' h => { h with tenants := fun k => ?_, others := fun {k} hk => ?_ }
  · rw [Table.get?_insert, Table.get?_insert]
    split
    · exact .some ⟨rfl, hb.bodies⟩
    · exact h.tenants k
  · rw [Table.get?_insert, Table.get?_insert]
    split
    · rename_i heq
      rw [hb.same hkey (heq ▸ hk)]
    · exact h.others hk

theorem dropTenant_couples (name : Json) :
    Task.Couples D.Clusters Eq (MemoryCluster.dropTenant name) (MemoryCluster.dropTenant name) := by
  refine .bind (.ofExcept_eq rfl) ?_
  rintro key _ ⟨rfl, -⟩
  refine .update fun d d' h => { h with tenants := fun k => ?_, others := fun {k} hk => ?_ }
  · rw [Table.get?_erase, Table.get?_erase]
    split
    · exact .none
    · exact h.tenants k
  · rw [Table.get?_erase, Table.get?_erase]
    split
    · rfl
    · exact h.others hk

theorem newVersion_couples :
    Task.Couples D.Clusters Eq MemoryCluster.newVersion MemoryCluster.newVersion := by
  refine .bind .state fun c c' h => ?_
  rw [h.nextVersion]
  refine .bind (.update fun d d' h => ?_) fun _ _ _ => .pure rfl
  exact { h with nextVersion := by rw [h.nextVersion] }

theorem readTenant_couples (name : Json) :
    Task.Couples D.Clusters (Option.Rel D.Bodies) (MemoryCluster.readTenant name)
      (MemoryCluster.readTenant name) := by
  refine .bind (record_couples _ _ _) fun _ _ _ => .bind (meetFailure_couples _ _) fun _ _ _ => ?_
  refine (tenant?_couples name).mono fun h => ?_
  cases h with
  | none => exact .none
  | some hb => exact .some hb.bodies

/-- Bodies with metadata. -/
def Stored (D : Disguise) (b b' : Json) : Prop :=
  D.Bodies b b' ∧ (b.get? "metadata").isSome = true

theorem replaceTenant_couples {b b' : Json} (hb : D.Bodies b b') :
    Task.Couples D.Clusters D.Stored (MemoryCluster.replaceTenant b)
      (MemoryCluster.replaceTenant b') := by
  refine .bind (.ofExcept_eq (hb.entry_eq (by decide))) ?_
  rintro md _ ⟨rfl, hmd⟩
  refine .bind (.ofExcept_eq rfl) ?_
  rintro name _ ⟨rfl, hname⟩
  refine .bind (record_couples _ _ _) fun _ _ _ => .bind (meetFailure_couples _ _) fun _ _ _ => ?_
  refine .bind (tenant?_couples name) fun o o' ho => ?_
  cases ho with
  | none => exact .fail _
  | @some current current' hcurrent =>
    refine .bind (.ofExcept_eq rfl) ?_
    rintro seen _ ⟨rfl, -⟩
    have hlatest : (current'.entry "metadata").bind (Json.entry "resourceVersion") =
        (current.entry "metadata").bind (Json.entry "resourceVersion") := by
      rw [hcurrent.bodies.entry_eq (by decide)]
    refine .bind (.ofExcept_eq hlatest) ?_
    rintro latest _ ⟨rfl, -⟩
    split
    · refine .bind newVersion_couples ?_
      rintro version _ rfl
      have hset : ∀ b : Json, b.entry "metadata" = .ok md →
          b.set "metadata" (md.set "resourceVersion" version) = b.withVersion version := by
        intro b hb
        rw [Json.withVersion, Json.setMetadata, Json.entry_eq_ok.1 hb]
        rfl
      have hmd' : b'.entry "metadata" = .ok md := by rw [hb.entry_eq (by decide), hmd]
      have hstored : D.Bodies (b.withVersion version) (b'.withVersion version) :=
        hb.setMetadata (by decide) version
      have hnamed : (b.withVersion version).metadatum "name" = some name := by
        rw [Json.withVersion, metadatum_setMetadata_ne (by decide), Json.metadatum,
          Json.entry_eq_ok.1 hmd]
        exact Json.entry_eq_ok.1 hname
      have hpresent : ((b.withVersion version).get? "metadata").isSome = true := by
        cases b with
        | obj fields => rw [Json.withVersion, Json.setMetadata, Json.set_obj, Json.get?_obj,
            Fields.get?_set_self, Option.isSome_some]
        | _ => exact absurd (Json.entry_eq_ok.1 hmd) (by simp [Json.get?])
      simp only [hset b hmd, hset b' hmd']
      split
      · exact .bind (dropTenant_couples name) fun _ _ _ => .pure ⟨hstored, hpresent⟩
      · refine .bind (storeTenant_couples (hstored.kept hnamed)) fun _ _ _ => ?_
        exact .pure ⟨hstored, hpresent⟩
    · exact .fail _

theorem patchTenantStatus_couples (name patch : Json) :
    Task.Couples D.Clusters Eq (MemoryCluster.patchTenantStatus name patch)
      (MemoryCluster.patchTenantStatus name patch) := by
  refine .bind (.update fun c c' h => { h with patches := by rw [h.patches] }) fun _ _ _ => ?_
  refine .bind (meetFailure_couples _ _) fun _ _ _ => .bind (tenant?_couples name) fun o o' ho => ?_
  cases ho with
  | none => exact .fail _
  | @some b b' hb =>
    simp only [hb.bodies.get?_eq (by decide : "status" ≠ "spec")]
    split
    · have hset : ∀ v, D.Kept name (b.set "status" v) (b'.set "status" v) := fun v =>
        ⟨hb.bodies.set_status v, fun hkey hd => by rw [hb.same hkey hd]⟩
      refine .bind (storeTenant_couples (hset _)) fun _ _ _ => .ofExcept (.refl _)
    · exact .fail _

end Disguise
end MoodleTenancy
