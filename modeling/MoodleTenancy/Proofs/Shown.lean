import Mathlib.Data.List.Forall2
import MoodleTenancy.Proofs.Acceptance

/-!
# What reports show

A report shows an excerpt of what it complains about. Readings of two values come to the same if
they are accepted alike or if nothing in their reports tells the values apart.

* `Json.excerpt`: what a report shows of a value.
* `Issue.ShowsSame`, `Report.text_eq`: complaints that look the same, and reports of them.
* `Checked.Rel`: readings that come to the same.
* `Checked.Rel.and` and its kin: one rule for each way in which readings are combined.
* `Field.required_set_rel`: a field of an object in which another field is set.
-/

namespace MoodleTenancy
set_option autoImplicit false

/-- What a report shows of a value. -/
def Json.excerpt (j : Json) : List Char := Text.excerpt j.literal.toList

namespace Validation

variable {α α' β β' : Type}

/-! ## Complaints -/

/-- Complaints that look the same in a report, although their subjects may differ. -/
structure Issue.ShowsSame (i i' : Issue) : Prop where
  complaint : i'.complaint = i.complaint
  path : i'.path = i.path
  excerpt : Text.excerpt i'.subject.literal.toList = Text.excerpt i.subject.literal.toList
  kindName : i'.subject.kindName = i.subject.kindName

namespace Issue.ShowsSame

variable {i i' : Issue}

theorem refl (i : Issue) : i.ShowsSame i := ⟨rfl, rfl, rfl, rfl⟩

theorem within (h : i.ShowsSame i') (step : Step) : (i.within step).ShowsSame (i'.within step) where
  complaint := h.complaint
  path := congrArg (step :: ·) h.path
  excerpt := h.excerpt
  kindName := h.kindName

theorem lines_eq (h : i.ShowsSame i') : i'.lines = i.lines := by
  simp only [lines, h.complaint, h.path, h.excerpt, h.kindName]

end Issue.ShowsSame

theorem Report.text_eq {title : String} {is js : List Issue}
    (h : List.Forall₂ Issue.ShowsSame is js) :
    (Report.mk title js).text = (Report.mk title is).text := by
  have hlines : js.flatMap Issue.lines = is.flatMap Issue.lines := by
    induction h with
    | nil => rfl
    | cons hi _ ih => rw [List.flatMap_cons, List.flatMap_cons, hi.lines_eq, ih]
  simp only [text, h.length_eq, hlines]

/-! ## Readings -/

/-- Readings that come to the same: related values, or complaints that look the same. -/
inductive Checked.Rel (R : α → α' → Prop) : Checked α → Checked α' → Prop where
  | accepted {a : α} {a' : α'} (h : R a a') : Rel R (.accepted a) (.accepted a')
  | refused {is js : List Issue} (h : List.Forall₂ Issue.ShowsSame is js) :
    Rel R (.refused is) (.refused js)

namespace Checked.Rel

variable {R : α → α' → Prop} {Q : β → β' → Prop} {x : Checked α} {x' : Checked α'}

theorem of_eq {x x' : Checked α} (h : x' = x) : Rel Eq x x' := by
  subst h
  cases x' with
  | accepted a => exact .accepted rfl
  | refused is => exact .refused (List.forall₂_same.2 fun i _ => .refl i)

theorem map {f : α → β} {f' : α' → β'} (hf : ∀ a a', R a a' → Q (f a) (f' a')) (h : Rel R x x') :
    Rel Q (x.map f) (x'.map f') := by
  cases h with
  | accepted ha => exact .accepted (hf _ _ ha)
  | refused his => exact .refused his

theorem and {f : Checked (α → β)} {f' : Checked (α' → β')}
    (hf : Rel (fun g g' => ∀ a a', R a a' → Q (g a) (g' a')) f f') (h : Rel R x x') :
    Rel Q (f.and x) (f'.and x') := by
  cases hf with
  | accepted hg =>
    cases h with
    | accepted ha => exact .accepted (hg _ _ ha)
    | refused his => exact .refused his
  | refused his =>
    cases h with
    | accepted _ => exact .refused his
    | refused hjs => exact .refused (List.rel_append his hjs)

theorem within (h : Rel R x x') (step : Step) : Rel R (x.within step) (x'.within step) := by
  cases h with
  | accepted ha => exact .accepted ha
  | refused his =>
    refine .refused (List.forall₂_map_left_iff.2 (List.forall₂_map_right_iff.2 ?_))
    exact his.imp fun _ _ hi => hi.within step

theorem mono {Q : α → α' → Prop} (h : Rel R x x') (hQ : ∀ {a a'}, R a a' → Q a a') :
    Rel Q x x' := by
  cases h with
  | accepted ha => exact .accepted (hQ ha)
  | refused his => exact .refused his

/-- What becomes of the readings once they are reported. -/
theorem report (h : Rel R x x') (title : String) :
    (∃ a a', x.report title = .ok a ∧ x'.report title = .ok a' ∧ R a a') ∨
      ∃ r r' : Report, x.report title = .error r ∧ x'.report title = .error r' ∧
        r'.text = r.text := by
  cases h with
  | accepted ha => exact .inl ⟨_, _, rfl, rfl, ha⟩
  | refused his => exact .inr ⟨_, _, rfl, rfl, Report.text_eq his⟩

end Checked.Rel

/-! ## Fields -/

namespace Field

variable {f : Field} {key : String}

/-- A field of another name is read alike, unless it is missing and the report shows what was
set. -/
theorem required_set_rel (hw : key ≠ f.wire) (ha : key ≠ f.alternative) (r : Reader α) {v : Json}
    {fields : Fields} (h : f.find? fields = none →
      (Json.obj (Fields.set key v fields)).excerpt = (Json.obj fields).excerpt) :
    Checked.Rel Eq (f.required r fields) (f.required r (Fields.set key v fields)) := by
  simp only [required, find?_set hw ha]
  cases hf : f.find? fields with
  | some found => exact .of_eq rfl
  | none =>
    refine Checked.Rel.within (.refused (.cons ?_ .nil)) _
    exact ⟨rfl, rfl, h hf, rfl⟩

theorem optional_set_rel (hw : key ≠ f.wire) (ha : key ≠ f.alternative) (default : α)
    (r : Reader α) (v : Json) (fields : Fields) :
    Checked.Rel Eq (f.optional default r fields)
      (f.optional default r (Fields.set key v fields)) :=
  .of_eq (optional_set hw ha default r v fields)

/-- The field that is set is read of what it was and of what it becomes. -/
theorem required_set_self_rel {R : α → α → Prop} (hw : f.wire = key) {r : Reader α}
    {fields : Fields} {old new : Json} (hold : Fields.get? key fields = some old)
    (h : Checked.Rel R (r old) (r new)) :
    Checked.Rel R (f.required r fields) (f.required r (Fields.set key new fields)) := by
  subst hw
  simp only [required, find?, hold, Fields.get?_set_self]
  exact h.within _

end Field

end Validation
end MoodleTenancy
