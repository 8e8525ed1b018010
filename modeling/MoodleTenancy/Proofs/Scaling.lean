import MoodleTenancy.Proofs.Grammar

/-!
# Autoscaling within its bounds

The numbers of an autoscaler come from fields that may be given, left open or null, and each has its
own default. Whatever a valid declaration has of them, a cluster can do with what becomes of it.

* `Autoscaling.IsSound`: the numbers in force are within their bounds.
* `isSound_of_read`: those of a declaration are.
* `Scales`: what an autoscaler and a deployment say about the number of pods.
* `Json.withoutAutoscaling`: a body without its block on autoscaling.
* `exists_read_iff`: what this block decides about a body that is valid without it.
* `read_autoscaling`: what becomes of a block, and which blocks are refused.
-/

namespace MoodleTenancy
set_option autoImplicit false

open Validation

/-! ## Numbers in force -/

/-- The numbers that are in force, given or not. -/
structure Autoscaling.IsSound (a : Autoscaling) : Prop where
  one_le_lowest : 1 ≤ a.lowest
  lowest_le : a.enabled = true → a.lowest ≤ a.maxReplicas
  one_le_load : 1 ≤ a.load
  load_le : a.load ≤ 100

namespace Grammar

variable {α : Type} {F : Form α} {wire own : String} {fields : Fields}

/-- What holds of a default and of all values of a form holds of an optional field. -/
theorem Allows.holds {default a : α} (h : Allows wire own default F fields a) {P : α → Prop}
    (hdefault : P default) (hF : ∀ v b, F v b → P b) : P a := by
  obtain ⟨-, rfl⟩ | ⟨v, -, hv⟩ := h
  · exact hdefault
  · exact hF v a hv

/-- The same of a field that may be null, with what stands for it then. -/
theorem Allows.getD_holds {a : Option α} (h : Allows wire own none (OrNull F) fields a)
    {P : α → Prop} {instead : α} (hinstead : P instead) (hF : ∀ v b, F v b → P b) :
    P (a.getD instead) := by
  refine h.holds (P := fun a => P (a.getD instead)) hinstead ?_
  rintro v _ (_ | ⟨-, hb⟩)
  · exact hinstead
  · exact hF v _ hb

theorem AutoscalingFields.isSound {a : Autoscaling} (h : AutoscalingFields fields a) : a.IsSound where
  one_le_lowest := h.minReplicas.getD_holds (by decide) fun _ _ hn => hn.2
  lowest_le := h.room
  one_le_load := h.targetCpu.getD_holds (P := (1 ≤ ·)) (by decide) fun _ _ hn => hn.2.1
  load_le := h.targetCpu.getD_holds (P := (· ≤ 100)) (by decide) fun _ _ hn => hn.2.2

end Grammar

theorem isSound_of_read {j : Json} {t : Declaration} (h : Declaration.read j = .ok t) :
    t.spec.autoscaling.IsSound := by
  obtain ⟨_, -, hspec⟩ := spec_of_read h
  obtain ⟨_, -, hfields⟩ := model_eq_accepted.1 hspec
  obtain ⟨-, -, -, ha, -⟩ := specFields_eq_accepted.1 hfields
  refine ((Grammar.optional_iff_allows Grammar.autoscaling_reads).1 ha).holds ?_ ?_
  · exact ⟨by decide, by decide, by decide, by decide⟩
  · rintro _ a ⟨_, -, hblock⟩
    exact hblock.isSound

theorem uid_of_read {j : Json} {t : Declaration} {uid : String} (h : Declaration.read j = .ok t)
    (hu : j.at? ["metadata", "uid"] = some (.str uid)) : t.metadata.uid = some uid := by
  obtain ⟨o, rfl, ht⟩ := read_eq_ok_iff.1 h
  obtain ⟨-, -, hm, -⟩ := declarationFields_eq_accepted.1 ht
  obtain ⟨v, hv, hm⟩ := Field.required_eq_accepted.1 hm
  obtain ⟨md, rfl, hm⟩ := model_eq_accepted.1 hm
  obtain ⟨-, hread, -⟩ := metadataFields_eq_accepted.1 hm
  rw [Field.value?_self] at hv
  have hget : Fields.get? "uid" md = some (.str uid) := by
    simpa [Json.at?, hv] using hu
  rw [Field.optional_eq_accepted, Field.value?_self, hget] at hread
  obtain ⟨hnone, -⟩ | ⟨v, hv, hread⟩ := hread
  · cases hnone
  · obtain rfl := Option.some.inj hv
    have htext := nullable_text_eq_accepted.1 hread
    cases huid : t.metadata.uid with
    | none => simp [huid, Json.ofText?, Json.ofOption] at htext
    | some u => simpa [huid, Json.ofText?, Json.ofOption, eq_comm] using htext

/-! ## Objects -/

/-- What an autoscaler and a deployment say about the number of pods. -/
structure Scales (scaler deployment : Json) (least greatest load : Int) : Prop where
  minReplicas : scaler.at? ["spec", "minReplicas"] = some (.int least)
  maxReplicas : scaler.at? ["spec", "maxReplicas"] = some (.int greatest)
  utilization : ∃ metric, scaler.itemsAt ["spec", "metrics"] = [metric] ∧
    metric.at? ["resource", "target", "averageUtilization"] = some (.int load)
  replicas : deployment.at? ["spec", "replicas"] = some (.int least)

theorem replicas_deployment (s : Settings) (t : Declaration) (o : Owner) (ns : Option String) :
    (Child.deployment s t o ns).toJson.at? ["spec", "replicas"] =
      some (.int t.spec.autoscaling.initialReplicas) := rfl

theorem scales_of_enabled {t : Declaration} (h : t.spec.autoscaling.enabled = true) (s : Settings)
    (o : Owner) (ns : Option String) :
    Scales (Child.autoscaler t o ns).toJson (Child.deployment s t o ns).toJson
      t.spec.autoscaling.lowest t.spec.autoscaling.maxReplicas t.spec.autoscaling.load where
  minReplicas := rfl
  maxReplicas := rfl
  utilization := ⟨_, rfl, rfl⟩
  replicas := by rw [replicas_deployment, Autoscaling.initialReplicas, if_pos h]

theorem Component.isNeeded_of_enabled {t : Declaration} (h : t.spec.autoscaling.enabled = true)
    (p : Component) : p.isNeeded t = true := by
  rw [isNeeded, h, Bool.true_or]

theorem Component.isNeeded_eq_false_iff {t : Declaration}
    (h : t.spec.autoscaling.enabled = false) (p : Component) :
    p.isNeeded t = false ↔ p = .autoscaler ∨ p = .budget := by
  rw [isNeeded, h, Bool.false_or]
  cases p <;> decide

/-! ## Bodies without the block -/

/-- The body without its block on autoscaling, under either name. -/
def Json.withoutAutoscaling (body : Json) : Json :=
  body.set "spec" (((Json.ofOption (body.get? "spec")).erase "hpa").erase "autoscaling")

/-- A specification that is fine without the block has nothing but the block to be refused for. -/
theorem specFields_of_erase {o : Fields} {x : Spec}
    (h : specFields (Fields.erase "autoscaling" (Fields.erase "hpa" o)) = .accepted x)
    (y : Autoscaling) :
    specFields o = .accepted { x with autoscaling := y } ↔
      Field.optional ⟨"hpa", "autoscaling"⟩ {} autoscaling o = .accepted y := by
  have hvalue : ∀ f : Field, "hpa" ≠ f.wire → "hpa" ≠ f.alternative → "autoscaling" ≠ f.wire →
      "autoscaling" ≠ f.alternative →
      f.value? (Fields.erase "autoscaling" (Fields.erase "hpa" o)) = f.value? o := by
    intro f hw ha hw' ha'
    rw [Field.value?_erase hw' ha', Field.value?_erase hw ha]
  obtain ⟨hh, hi, hr, -, hs, hd, hp, hm⟩ := specFields_eq_accepted.1 h
  rw [Field.required_congr (hvalue _ (by decide) (by decide) (by decide) (by decide))]
    at hh hi hs hd
  rw [Field.optional_congr (hvalue _ (by decide) (by decide) (by decide) (by decide))] at hr hp hm
  rw [specFields_eq_accepted]
  exact ⟨fun hall => hall.2.2.2.1, fun ha => ⟨hh, hi, hr, ha, hs, hd, hp, hm⟩⟩

theorem exists_read_iff {j : Json} {t : Declaration} {o : Fields}
    (h : Declaration.read j.withoutAutoscaling = .ok t) (ho : j.get? "spec" = some (.obj o)) :
    (∃ t', Declaration.read j = .ok t') ↔
      ∃ a, Field.optional ⟨"hpa", "autoscaling"⟩ {} autoscaling o = .accepted a := by
  cases j with
  | obj fields =>
    have hwithout : (Json.obj fields).withoutAutoscaling = .obj (Fields.set "spec"
        (.obj (Fields.erase "autoscaling" (Fields.erase "hpa" o))) fields) := by
      rw [Json.withoutAutoscaling, ho]
      rfl
    obtain ⟨_, hj, ht⟩ := read_eq_ok_iff.1 h
    obtain rfl := Json.obj.inj (hwithout.symm.trans hj)
    obtain ⟨happ, hkind, hm, hs⟩ := declarationFields_eq_accepted.1 ht
    -- all but the specification is read as if the block were there
    rw [Field.optional_set (by decide) (by decide)] at happ hkind
    rw [Field.required_congr (Field.value?_set (by decide) (by decide) _ fields)] at hm
    rw [Field.required_set_self, Checked.within_eq_accepted] at hs
    obtain ⟨_, hobj, hspec⟩ := model_eq_accepted.1 hs
    obtain rfl := Json.obj.inj hobj
    have hvalue : (⟨"spec", "spec"⟩ : Field).value? fields = some (.obj o) := by
      rw [Field.value?_self]
      exact ho
    constructor
    · rintro ⟨t', ht'⟩
      obtain ⟨_, hj', ht'⟩ := read_eq_ok_iff.1 ht'
      obtain rfl := Json.obj.inj hj'
      obtain ⟨-, -, -, hs'⟩ := declarationFields_eq_accepted.1 ht'
      obtain ⟨v, hv, hs'⟩ := Field.required_eq_accepted.1 hs'
      obtain rfl := Option.some.inj (hvalue.symm.trans hv)
      obtain ⟨_, hobj', hspec'⟩ := model_eq_accepted.1 hs'
      obtain rfl := Json.obj.inj hobj'
      obtain ⟨-, -, -, ha, -⟩ := specFields_eq_accepted.1 hspec'
      exact ⟨_, ha⟩
    · rintro ⟨a, ha⟩
      have hs' : spec (.obj o) = .accepted { t.spec with autoscaling := a } :=
        model_eq_accepted.2 ⟨o, rfl, (specFields_of_erase hspec a).2 ha⟩
      refine ⟨{ t with spec := { t.spec with autoscaling := a } }, read_eq_ok_iff.2 ⟨_, rfl, ?_⟩⟩
      exact declarationFields_eq_accepted.2
        ⟨happ, hkind, hm, Field.required_eq_accepted.2 ⟨_, hvalue, hs'⟩⟩
  | _ => cases ho

/-- Of a block whose fields are in range, only the bounds together can be wrong. -/
theorem exists_autoscaling_iff {o block : Fields} {a : Autoscaling}
    (ho : o.given "hpa" "autoscaling" = some (.obj block))
    (hblock : Grammar.AutoscalingRanges block a) :
    (∃ b, Field.optional ⟨"hpa", "autoscaling"⟩ {} autoscaling o = .accepted b) ↔
      a.isConsistent = true := by
  have hfields : autoscalingFields block = .accepted a := Grammar.autoscalingFields_iff.2 hblock
  constructor
  · rintro ⟨b, hb⟩
    rw [Field.optional_eq_accepted, Grammar.value?_eq_given, ho] at hb
    obtain ⟨hnone, -⟩ | ⟨v, hv, hb⟩ := hb
    · cases hnone
    · obtain rfl := Option.some.inj hv
      obtain ⟨_, hobj, hb, hconsistent⟩ := autoscaling_eq_accepted.1 hb
      obtain rfl := Json.obj.inj hobj
      exact Checked.accepted.inj (hb.symm.trans hfields) ▸ hconsistent
  · intro ha
    refine ⟨a, Field.optional_eq_accepted.2 (.inr ⟨.obj block, ?_, ?_⟩)⟩
    · rw [Grammar.value?_eq_given, ho]
    · exact autoscaling_eq_accepted.2 ⟨block, rfl, hfields, ha⟩

/-! ## Blocks on autoscaling -/

/-- The numbers of a valid declaration are such as a cluster can do with: they are in order, and the
deployment starts where the autoscaler does. A block whose fields are in range is refused if they
are not in order, and for no other reason. -/
theorem read_autoscaling :
    (∀ j t uid, Declaration.read j = .ok t → j.at? ["metadata", "uid"] = some (.str uid) →
      ∀ s ns, ∃ scaler deployment : Child, Component.autoscaler.build s t ns = .ok scaler ∧
        Component.deployment.build s t ns = .ok deployment ∧
        (t.spec.autoscaling.enabled = true →
          Component.all.filter (·.isNeeded t) = Component.all ∧ Component.all.length = 9 ∧
          ∃ least greatest load, Scales scaler.toJson deployment.toJson least greatest load ∧
            1 ≤ least ∧ least ≤ greatest ∧ 1 ≤ load ∧ load ≤ 100) ∧
        (t.spec.autoscaling.enabled = false →
          (∀ p : Component, p.isNeeded t = false ↔ p = .autoscaler ∨ p = .budget) ∧
          deployment.toJson.at? ["spec", "replicas"] = some (.int 1))) ∧
    ∀ j t o block a, Declaration.read j.withoutAutoscaling = .ok t →
      j.get? "spec" = some (.obj o) → Fields.given "hpa" "autoscaling" o = some (.obj block) →
      Grammar.AutoscalingRanges block a →
      ((∃ report, Declaration.read j = .error report) ↔
        a.enabled = true ∧ a.maxReplicas < a.minReplicas.getD 2) := by
  constructor
  · intro j t uid h huid s ns
    have howned := uid_of_read h huid
    have howner : Owner.of t = .ok ⟨t.apiVersion, t.kind, t.metadata.name, uid⟩ := by
      rw [Owner.of, howned]
    have hsound := isSound_of_read h
    refine ⟨Component.autoscaler.child s t _ ns, Component.deployment.child s t _ ns,
      by rw [Component.build, howner]; rfl, by rw [Component.build, howner]; rfl,
      fun he => ⟨?_, rfl, ?_⟩, fun he => ⟨Component.isNeeded_eq_false_iff he, ?_⟩⟩
    · exact List.filter_eq_self.2 fun p _ => Component.isNeeded_of_enabled he p
    · exact ⟨_, _, _, scales_of_enabled he s _ ns, hsound.one_le_lowest, hsound.lowest_le he,
        hsound.one_le_load, hsound.load_le⟩
    · refine (replicas_deployment s t _ ns).trans ?_
      rw [Autoscaling.initialReplicas, he]
      rfl
  · intro j t o block a h hspec ho hblock
    have hread := (exists_read_iff h hspec).trans (exists_autoscaling_iff ho hblock)
    rw [Grammar.isConsistent_iff] at hread
    have hfails : (∃ report, Declaration.read j = .error report) ↔
        ¬ ∃ t', Declaration.read j = .ok t' := by
      cases Declaration.read j <;> simp
    rw [hfails, hread, Classical.not_imp, Int.not_le]

/-- A plain tenant with a uid and a block on autoscaling. -/
def scalingTenant (block : Fields) : Json :=
  let body := (plainTenant "a").setMetadata "uid" (.str "1")
  body.set "spec" ((Json.ofOption (body.get? "spec")).set "hpa" (.obj block))

/-- The least number of replicas is two if it is null, and if it is left open: too many for one. -/
theorem read_scalingTenant :
    (∃ t scaler deployment, Declaration.read
        (scalingTenant [("enabled", .bool true), ("minReplicas", .null)]) = .ok t ∧
      Component.autoscaler.build {} t (some "moodle-a") = .ok scaler ∧
      Component.deployment.build {} t (some "moodle-a") = .ok deployment ∧
      ∃ least greatest load, Scales scaler.toJson deployment.toJson least greatest load ∧
        1 ≤ least ∧ least ≤ greatest ∧ 1 ≤ load ∧ load ≤ 100) ∧
    ∃ report, Declaration.read
      (scalingTenant [("enabled", .bool true), ("maxReplicas", .int 1)]) = .error report := by
  constructor
  · obtain ⟨scaler, deployment, hs, hd, hon, -⟩ := read_autoscaling.1
      (scalingTenant [("enabled", .bool true), ("minReplicas", .null)]) _ "1" rfl rfl {}
      (some "moodle-a")
    exact ⟨_, scaler, deployment, rfl, hs, hd, (hon rfl).2.2⟩
  · refine (read_autoscaling.2 _ _ _ [("enabled", .bool true), ("maxReplicas", .int 1)]
      ⟨true, none, 1, none⟩ rfl rfl rfl (Grammar.autoscalingFields_iff.1 rfl)).2 ?_
    decide

end MoodleTenancy
