import MoodleTenancy.Validation.Issue

/-!
# Reading that gathers all issues

* `Checked α`: a value, or the issues that stand in its way.
* `Checked.and`: both of two readings, or the issues of both, the first one's first.
* `Reader α`: reads a JSON value. `FieldReader α`: reads the fields of an object.
-/

namespace MoodleTenancy.Validation
set_option autoImplicit false

inductive Checked (α : Type) where
  | accepted (value : α)
  | refused (issues : List Issue)

namespace Checked

variable {α β : Type}

def map (f : α → β) : Checked α → Checked β
  | accepted a => accepted (f a)
  | refused is => refused is

/-- A function and its argument, with the issues of both. -/
def and (f : Checked (α → β)) (x : Checked α) : Checked β :=
  match f, x with
  | accepted g, accepted a => accepted (g a)
  | accepted _, refused is => refused is
  | refused is, accepted _ => refused is
  | refused is, refused js => refused (is ++ js)

/-- A check of a value that is otherwise fine. -/
def andThen (x : Checked α) (f : α → Checked β) : Checked β :=
  match x with
  | accepted a => f a
  | refused is => refused is

/-- The reading as seen from one step further out. -/
def within (step : Step) : Checked α → Checked α
  | accepted a => accepted a
  | refused is => refused (is.map (Issue.within step))

def value? : Checked α → Option α
  | accepted a => some a
  | refused _ => none

def issues : Checked α → List Issue
  | accepted _ => []
  | refused is => is

def report (model : String) : Checked α → Except Report α
  | accepted a => .ok a
  | refused is => .error ⟨model, is⟩

@[simp] theorem value?_accepted (a : α) : (accepted a).value? = some a := rfl

@[simp] theorem value?_refused (is : List Issue) : (refused is : Checked α).value? = none := rfl

@[simp] theorem value?_map (f : α → β) (x : Checked α) : (x.map f).value? = x.value?.map f := by
  cases x <;> rfl

theorem value?_and (f : Checked (α → β)) (x : Checked α) :
    (f.and x).value? = f.value?.bind fun g => x.value?.map g := by
  cases f <;> cases x <;> rfl

theorem value?_andThen (x : Checked α) (f : α → Checked β) :
    (x.andThen f).value? = x.value?.bind fun a => (f a).value? := by
  cases x <;> rfl

@[simp] theorem value?_within (step : Step) (x : Checked α) :
    (x.within step).value? = x.value? := by
  cases x <;> rfl

end Checked

abbrev Reader (α : Type) := Json → Checked α

abbrev FieldReader (α : Type) := Fields → Checked α

/-- One complaint about a value. -/
def refuse {α : Type} (c : Complaint) (j : Json) : Checked α :=
  .refused [⟨c, [], .json j⟩]

@[simp] theorem value?_refuse {α : Type} (c : Complaint) (j : Json) :
    (refuse c j : Checked α).value? = none := rfl

end MoodleTenancy.Validation
