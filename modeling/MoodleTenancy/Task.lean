import MoodleTenancy.Fault

/-!
# Tasks

A task works on a state and returns or fails; what it did to the state before it failed stays done.

* `Task σ α`: tasks on states in `σ` that return values in `α`.
* `Task.run`: what a task returns, and the state it leaves behind.
* `Task.state`, `Task.update`, `Task.fail`, `Task.ofExcept`: the simplest tasks.
* `Task.attempt`: the outcome of a task as a value. `Task.rescue`: a task with a way out.
* `Task.within`: a task on a part of the state.
-/

namespace MoodleTenancy
set_option autoImplicit false

/-- A computation on a state that returns or fails. -/
def Task (σ α : Type) : Type := σ → Except Fault α × σ

namespace Task

variable {σ τ α β : Type}

def run (t : Task σ α) (s : σ) : Except Fault α × σ := t s

/-- The second task gets what the first one returns, and is not run if that fails. -/
def andThen (t : Task σ α) (f : α → Task σ β) : Task σ β := fun s =>
  match t s with
  | (.ok a, s) => f a s
  | (.error e, s) => (.error e, s)

instance : Monad (Task σ) where
  pure a := fun s => (.ok a, s)
  bind := andThen

def fail (e : Fault) : Task σ α := fun s => (.error e, s)

def state : Task σ σ := fun s => (.ok s, s)

def update (f : σ → σ) : Task σ Unit := fun s => (.ok (), f s)

def ofExcept (e : Except Fault α) : Task σ α := fun s => (e, s)

/-- The outcome of a task, as the value of one that cannot fail. -/
def attempt (t : Task σ α) : Task σ (Except Fault α) := fun s => (.ok (t s).1, (t s).2)

/-- Goes on with `h` if the task fails. -/
def rescue (t : Task σ α) (h : Fault → Task σ α) : Task σ α := fun s =>
  match t s with
  | (.ok a, s) => (.ok a, s)
  | (.error e, s) => h e s

/-- A task on a part of the state. -/
def within (get : τ → σ) (set : σ → τ → τ) (t : Task σ α) : Task τ α := fun w =>
  ((t (get w)).1, set (t (get w)).2 w)

/-! ## Runs -/

@[simp] theorem run_pure (a : α) (s : σ) : (pure a : Task σ α).run s = (.ok a, s) := rfl

theorem run_bind (t : Task σ α) (f : α → Task σ β) (s : σ) :
    (t >>= f).run s =
      match t.run s with
      | (.ok a, s) => (f a).run s
      | (.error e, s) => (.error e, s) := rfl

instance : LawfulMonad (Task σ) :=
  LawfulMonad.mk' _
    (fun t => by
      funext s
      show (match t s with | (.ok a, s) => (.ok (id a), s) | (.error e, s) => (.error e, s)) = t s
      rcases t s with ⟨e, s'⟩
      cases e <;> rfl)
    (fun _ _ => rfl)
    (fun t f g => by
      funext s
      show andThen (andThen t f) g s = andThen t (fun a => andThen (f a) g) s
      unfold andThen
      rcases t s with ⟨e, s'⟩
      cases e <;> rfl)

theorem run_bind_ok {t : Task σ α} {s s' : σ} {a : α} (h : t.run s = (.ok a, s'))
    (f : α → Task σ β) : (t >>= f).run s = (f a).run s' := by
  rw [run_bind, h]

theorem run_bind_error {t : Task σ α} {s s' : σ} {e : Fault} (h : t.run s = (.error e, s'))
    (f : α → Task σ β) : (t >>= f).run s = (.error e, s') := by
  rw [run_bind, h]

@[simp] theorem run_fail (e : Fault) (s : σ) : (fail e : Task σ α).run s = (.error e, s) := rfl

@[simp] theorem run_state (s : σ) : (state : Task σ σ).run s = (.ok s, s) := rfl

@[simp] theorem run_update (f : σ → σ) (s : σ) : (update f).run s = (.ok (), f s) := rfl

@[simp] theorem run_ofExcept (e : Except Fault α) (s : σ) :
    (ofExcept e : Task σ α).run s = (e, s) := rfl

@[simp] theorem run_attempt (t : Task σ α) (s : σ) :
    t.attempt.run s = (.ok (t.run s).1, (t.run s).2) := rfl

theorem run_rescue (t : Task σ α) (h : Fault → Task σ α) (s : σ) :
    (t.rescue h).run s =
      match t.run s with
      | (.ok a, s) => (.ok a, s)
      | (.error e, s) => (h e).run s := rfl

@[simp] theorem run_within (get : τ → σ) (set : σ → τ → τ) (t : Task σ α) (w : τ) :
    (within get set t).run w = ((t.run (get w)).1, set (t.run (get w)).2 w) := rfl

end Task
end MoodleTenancy
