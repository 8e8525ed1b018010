import MoodleTenancy.Declaration.Reading

/-!
# What complaints are about

A report on a body that is refused says where in the body to look.

* `Issue.Concerns`: the path of an issue leads from a value to the subject of the issue.
* `Checked.Blames`: a reading fails for some reason, and for none but such as concern a value.
* `Checked.Blames.and` and its kin: combined readings; `text_blames` and its kin: readers.
* `read_error`: what a report on a declaration has.
-/

namespace MoodleTenancy.Validation
set_option autoImplicit false

variable {α β : Type}

/-- An issue is about a value or a part of it, to which its path leads. What the value has not got,
and nothing else, is said to be missing. -/
inductive Issue.Concerns : Issue → Json → Prop
  | itself {c : Complaint} (hc : c ≠ .missing) (j : Json) : Concerns ⟨c, [], .json j⟩ j
  | missing {name : String} {fields : Fields} (h : Fields.get? name fields = none) :
      Concerns ⟨.missing, [.key name], .json (.obj fields)⟩ (.obj fields)
  | field {name : String} {fields : Fields} {v : Json} {i : Issue}
      (hv : Fields.get? name fields = some v) (hi : Concerns i v) :
      Concerns (i.within (.key name)) (.obj fields)
  | item {n : Nat} {items : List Json} {v : Json} {i : Issue} (hv : items[n]? = some v)
      (hi : Concerns i v) : Concerns (i.within (.index n)) (.arr items)
  | entry {k : Key} {fields : Fields} {v : Json} {i : Issue} (hv : (k, v) ∈ fields)
      (hi : Concerns i v) : Concerns (i.within (.ofKey k)) (.obj fields)
  /-- The key of an entry is no text. -/
  | entryKey {k : Key} {fields : Fields} {v : Json} (hv : (k, v) ∈ fields) :
      Concerns ⟨.notText, [.ofKey k, .key "[key]"], .json (.ofKey k)⟩ (.obj fields)
  /-- One of two ways to read a value fails. -/
  | choice {c : Complaint} (hc : c ≠ .missing) (way : String) (hway : way ∈ ["str", "int"])
      (j : Json) : Concerns ⟨c, [.key way], .json j⟩ j

namespace Checked

/-- If a reading fails, then there are issues, and all of them concern `j`. -/
def Blames (x : Checked α) (j : Json) : Prop :=
  ∀ is, x = .refused is → is ≠ [] ∧ ∀ i ∈ is, i.Concerns j

namespace Blames

variable {x : Checked α} {j v : Json}

theorem accepted (a : α) : (Checked.accepted a).Blames j := by
  intro is h
  cases h

theorem refuse {c : Complaint} (hc : c ≠ .missing) : (refuse c j : Checked α).Blames j := by
  intro is h
  obtain rfl := Checked.refused.inj h
  refine ⟨by simp, ?_⟩
  rintro i hi
  rw [List.mem_singleton.1 hi]
  exact .itself hc j

theorem map {f : α → β} (hx : x.Blames j) : (x.map f).Blames j := by
  intro is h
  cases x with
  | accepted a => cases h
  | refused js => exact Checked.refused.inj h ▸ hx js rfl

theorem and {f : Checked (α → β)} (hf : f.Blames j) (hx : x.Blames j) : (f.and x).Blames j := by
  intro is h
  cases f with
  | accepted g =>
    cases x with
    | accepted a => cases h
    | refused js => exact Checked.refused.inj h ▸ hx js rfl
  | refused js =>
    cases x with
    | accepted a => exact Checked.refused.inj h ▸ hf js rfl
    | refused ks =>
      obtain rfl := Checked.refused.inj h
      refine ⟨by simp [(hf js rfl).1], fun i hi => ?_⟩
      exact (List.mem_append.1 hi).elim ((hf js rfl).2 i) ((hx ks rfl).2 i)

theorem andThen {f : α → Checked β} (hx : x.Blames j) (hf : ∀ a, (f a).Blames j) :
    (x.andThen f).Blames j := by
  cases x with
  | accepted a => exact hf a
  | refused js => exact fun is h => Checked.refused.inj h ▸ hx js rfl

/-- A step out of a part, if it leads back to the part. -/
theorem within {step : Step} (hx : x.Blames v)
    (hstep : ∀ i : Issue, i.Concerns v → (i.within step).Concerns j) : (x.within step).Blames j := by
  intro is h
  cases x with
  | accepted a => cases h
  | refused js =>
    obtain rfl := Checked.refused.inj h
    refine ⟨by simpa using (hx js rfl).1, fun i hi => ?_⟩
    obtain ⟨k, hk, rfl⟩ := List.mem_map.1 hi
    exact hstep k ((hx js rfl).2 k hk)

end Blames
end Checked

open Checked

/-! ## Readers of single values -/

theorem text_blames (j : Json) : (text j).Blames j := by
  cases j <;> first | exact .accepted _ | exact .refuse (by simp)

theorem nonEmptyText_blames (j : Json) : (nonEmptyText j).Blames j := by
  cases j with
  | str s =>
    simp only [nonEmptyText]
    split
    · exact .refuse (by simp)
    · exact .accepted s
  | _ => exact .refuse (by simp)

/-- An integer is refused for one reason. -/
theorem integer_eq_refused {j : Json} {is : List Issue} (h : integer j = .refused is) :
    ∃ c : Complaint, c ≠ .missing ∧ is = [⟨c, [], .json j⟩] := by
  have hone : ∀ c : Complaint, c ≠ .missing → (refuse c j : Checked Int) = .refused is →
      ∃ c : Complaint, c ≠ .missing ∧ is = [⟨c, [], .json j⟩] :=
    fun c hc h => ⟨c, hc, (Checked.refused.inj h).symm⟩
  unfold integer at h
  repeat' split at h
  all_goals first | exact hone _ (by simp) h | cases h

theorem integer_blames (j : Json) : (integer j).Blames j := by
  intro is h
  obtain ⟨c, hc, rfl⟩ := integer_eq_refused h
  exact Blames.refuse (α := Int) hc _ rfl

theorem atLeast_blames (least : Int) (j : Json) : (atLeast least j).Blames j := by
  refine (integer_blames j).andThen fun n => ?_
  split
  · exact .accepted n
  · exact .refuse (by simp)

theorem between_blames (least greatest : Int) (j : Json) : (between least greatest j).Blames j := by
  refine (atLeast_blames least j).andThen fun n => ?_
  split
  · exact .accepted n
  · exact .refuse (by simp)

theorem flag_blames (j : Json) : (flag j).Blames j := by
  simp only [flag]
  repeat' split
  all_goals first | exact .accepted _ | exact .refuse (by simp)

theorem size_blames (j : Json) : (size j).Blames j := by
  unfold size
  split
  · exact .accepted _
  · exact .accepted _
  · exact nonEmptyText_blames j

theorem quantity_blames (j : Json) : (quantity j).Blames j := by
  intro is h
  unfold quantity at h
  split at h
  · cases h
  · cases hn : integer j with
    | accepted n => simp [hn] at h
    | refused js =>
      obtain ⟨c, hc, rfl⟩ := integer_eq_refused hn
      rw [hn] at h
      obtain rfl := Checked.refused.inj h
      refine ⟨by simp, ?_⟩
      rintro i (_ | ⟨_, _ | ⟨_, hi⟩⟩)
      · exact .choice (by simp) "str" (by simp) j
      · exact .choice hc "int" (by simp) j
      · cases hi

/-! ## Readers of values made of others -/

section Parts

variable {r : Reader α}

theorem nullable_blames (hr : ∀ v, (r v).Blames v) (j : Json) : (nullable r j).Blames j := by
  unfold nullable
  split
  · exact .accepted none
  · exact (hr j).map

/-- The items from one place on, in the list that they are part of. -/
theorem itemsFrom_blames (hr : ∀ v, (r v).Blames v) {items : List Json} :
    ∀ {rest : List Json} {start : Nat}, (∀ n, rest[n]? = items[start + n]?) →
      (itemsFrom r start rest).Blames (.arr items)
  | [], _, _ => .accepted []
  | v :: rest, start, h => by
    have hv : items[start]? = some v := (h 0).symm
    refine .and (.map ((hr v).within fun i hi => .item hv hi)) (itemsFrom_blames hr fun n => ?_)
    rw [Nat.add_right_comm]
    exact h (n + 1)

theorem listOf_blames (hr : ∀ v, (r v).Blames v) (j : Json) : (listOf r j).Blames j := by
  cases j with
  | arr items => exact itemsFrom_blames hr fun n => by rw [Nat.zero_add]
  | _ => exact .refuse (by simp)

theorem entry_blames (hr : ∀ v, (r v).Blames v) {k : Key} {v : Json} {fields : Fields}
    (hkv : (k, v) ∈ fields) :
    ((((keyText k).map Prod.mk).and (r v)).within (.ofKey k)).Blames (.obj fields) := by
  intro is h
  have hfine : ∀ i : Issue, i.Concerns v → (i.within (.ofKey k)).Concerns (.obj fields) :=
    fun i hi => .entry hkv hi
  by_cases hk : ∃ s, k = .text s
  · obtain ⟨s, rfl⟩ := hk
    exact ((Blames.accepted _).and (hr v)).within hfine is h
  -- a key that is no text is complained about beside whatever is wrong with its value
  · have hkey : keyText k = .refused [⟨.notText, [.key "[key]"], .json (.ofKey k)⟩] := by
      cases k <;> first | rfl | exact absurd ⟨_, rfl⟩ hk
    have hname := Issue.Concerns.entryKey hkv
    rw [hkey] at h
    cases hv : r v with
    | accepted a =>
      rw [hv] at h
      obtain rfl := Checked.refused.inj h
      refine ⟨by simp, fun i hi => ?_⟩
      rw [List.mem_singleton.1 hi]
      exact hname
    | refused js =>
      rw [hv] at h
      obtain rfl := Checked.refused.inj h
      refine ⟨by simp, ?_⟩
      rintro i (_ | ⟨_, hi⟩)
      · exact hname
      · obtain ⟨m, hm, rfl⟩ := List.mem_map.1 hi
        exact hfine m ((hr v js hv).2 m hm)

theorem entries_blames (hr : ∀ v, (r v).Blames v) {fields : Fields} :
    ∀ {rest : Fields}, rest ⊆ fields → (entries r rest).Blames (.obj fields)
  | [], _ => .accepted []
  | (k, v) :: rest, h => by
    have hkv : (k, v) ∈ fields := h List.mem_cons_self
    exact .and (.map (entry_blames hr hkv))
      (entries_blames hr fun f hf => h (List.mem_cons_of_mem _ hf))

theorem mapOf_blames (hr : ∀ v, (r v).Blames v) (j : Json) : (mapOf r j).Blames j := by
  cases j with
  | obj fields => exact entries_blames hr fun f hf => hf
  | _ => exact .refuse (by simp)

/-! ## Fields of objects -/

theorem Field.find?_eq_some {f : Field} {fields : Fields} {name : String} {v : Json}
    (h : f.find? fields = some (name, v)) : Fields.get? name fields = some v := by
  unfold find? at h
  cases hw : Fields.get? f.wire fields with
  | some w =>
    rw [hw] at h
    obtain ⟨rfl, rfl⟩ := Prod.mk.inj (Option.some.inj h)
    exact hw
  | none =>
    rw [hw] at h
    obtain ⟨w, ha, hw⟩ := Option.map_eq_some_iff.1 h
    obtain ⟨rfl, rfl⟩ := Prod.mk.inj hw
    exact ha

theorem Field.required_blames (hr : ∀ v, (r v).Blames v) (f : Field) (fields : Fields) :
    (f.required r fields).Blames (.obj fields) := by
  cases h : f.find? fields with
  | some found =>
    obtain ⟨name, v⟩ := found
    simp only [required, h]
    exact (hr v).within fun i hi => .field (find?_eq_some h) hi
  | none =>
    have hw : Fields.get? f.wire fields = none := by
      unfold find? at h
      cases hw : Fields.get? f.wire fields with
      | some v => simp [hw] at h
      | none => rfl
    simp only [required, h]
    intro is his
    obtain rfl := Checked.refused.inj his
    refine ⟨by simp, fun i hi => ?_⟩
    rw [List.mem_singleton.1 hi]
    exact .missing hw

theorem Field.optional_blames (hr : ∀ v, (r v).Blames v) (f : Field) (default : α)
    (fields : Fields) : (f.optional default r fields).Blames (.obj fields) := by
  cases h : f.find? fields with
  | some found =>
    obtain ⟨name, v⟩ := found
    simp only [optional, h]
    exact (hr v).within fun i hi => .field (find?_eq_some h) hi
  | none =>
    simp only [optional, h]
    exact .accepted default

theorem model_blames {r : FieldReader α} (hr : ∀ fields, (r fields).Blames (.obj fields))
    (name : String) (j : Json) : (model name r j).Blames j := by
  cases j with
  | obj fields => exact hr fields
  | _ => exact .refuse (by simp)

end Parts

/-! ## Readers of the parts -/

open MoodleTenancy.Validation.Field

theorem metadata_blames (j : Json) : (metadata j).Blames j :=
  model_blames (fun o => ((((((required_blames nonEmptyText_blames _ o).map).and
    (optional_blames (nullable_blames text_blames) _ _ o)).and
    (optional_blames (nullable_blames text_blames) _ _ o)).and
    (optional_blames (nullable_blames integer_blames) _ _ o)).and
    (optional_blames (listOf_blames text_blames) _ _ o)).and
    (optional_blames (nullable_blames text_blames) _ _ o)) _ j

theorem resources_blames (j : Json) : (resources j).Blames j :=
  model_blames (fun o => ((optional_blames (mapOf_blames quantity_blames) _ _ o).map).and
    (optional_blames (mapOf_blames quantity_blames) _ _ o)) _ j

theorem autoscaling_blames (j : Json) : (autoscaling j).Blames j := by
  have hfields : (model "AutoscalingSpec" autoscalingFields j).Blames j :=
    model_blames (fun o => ((((optional_blames flag_blames _ _ o).map).and
      (optional_blames (nullable_blames (atLeast_blames 1)) _ _ o)).and
      (optional_blames (atLeast_blames 1) _ _ o)).and
      (optional_blames (nullable_blames (between_blames 1 100)) _ _ o)) _ j
  refine hfields.andThen fun a => ?_
  split
  · exact .accepted a
  · exact .refuse (by simp [boundsComplaint])

theorem storage_blames (j : Json) : (storage j).Blames j :=
  model_blames (fun o => ((required_blames size_blames _ o).map).and
    (optional_blames text_blames _ _ o)) _ j

theorem database_blames (j : Json) : (database j).Blames j :=
  model_blames (fun o => (((((required_blames nonEmptyText_blames _ o).map).and
    (required_blames nonEmptyText_blames _ o)).and
    (required_blames nonEmptyText_blames _ o)).and
    (required_blames nonEmptyText_blames _ o)).and
    (required_blames nonEmptyText_blames _ o)) _ j

theorem php_blames (j : Json) : (php j).Blames j :=
  model_blames (fun o => ((optional_blames (atLeast_blames 0) _ _ o).map).and
    (optional_blames text_blames _ _ o)) _ j

theorem memcached_blames (j : Json) : (memcached j).Blames j :=
  model_blames (fun o => (optional_blames (atLeast_blames 0) _ _ o).map) _ j

theorem spec_blames (j : Json) : (spec j).Blames j :=
  model_blames (fun o => ((((((((required_blames nonEmptyText_blames _ o).map).and
    (required_blames nonEmptyText_blames _ o)).and
    (optional_blames resources_blames _ _ o)).and
    (optional_blames autoscaling_blames _ _ o)).and
    (required_blames storage_blames _ o)).and
    (required_blames database_blames _ o)).and
    (optional_blames php_blames _ _ o)).and
    (optional_blames memcached_blames _ _ o)) _ j

theorem declaration_blames (j : Json) : (declaration j).Blames j :=
  model_blames (fun o => ((((optional_blames text_blames _ _ o).map).and
    (optional_blames text_blames _ _ o)).and
    (required_blames metadata_blames _ o)).and
    (required_blames spec_blames _ o)) _ j

/-- A report on a body has issues, and each of them leads to what it is about. -/
theorem read_error {j : Json} {report : Report} (h : Declaration.read j = .error report) :
    report.title = "TenantDeclaration" ∧ report.issues ≠ [] ∧
      ∀ i ∈ report.issues, i.Concerns j := by
  cases hd : declaration j with
  | accepted t => simp [Declaration.read, hd, Checked.report] at h
  | refused is =>
    rw [Declaration.read, hd, Checked.report, Except.error.injEq] at h
    subst h
    exact ⟨rfl, declaration_blames j is hd⟩

end MoodleTenancy.Validation
