import MoodleTenancy.Operator.World

/-!
# Two runs side by side

Two tasks are compared by running them from states that are related in some way. They end alike if
they fail with the same fault or return related values, and the states stay related. There is one
rule for each way in which tasks are made, so that a comparison follows the text of the tasks.

* `Except.Rel`: the same fault, or related values.
* `Task.Couples`: tasks that end alike from related states.
* `Couples.ends`: the ways in which such tasks end.
* `Couples.bind`, `Couples.rescue` and their kin: the rules for tasks.
* `World.Rel`: worlds with related clusters and the same journal.
* `Couples.call`, `Couples.log`: the rules for jobs.
-/

namespace MoodleTenancy
set_option autoImplicit false

variable {σ α α' β β' : Type}

/-- The same fault, or related values. -/
inductive Except.Rel (R : α → α' → Prop) : Except Fault α → Except Fault α' → Prop where
  | ok {a : α} {a' : α'} (h : R a a') : Rel R (.ok a) (.ok a')
  | error (fault : Fault) : Rel R (.error fault) (.error fault)

namespace Except.Rel

variable {R : α → α' → Prop}

theorem refl (e : Except Fault α) : Rel Eq e e := by
  cases e with
  | ok a => exact .ok rfl
  | error fault => exact .error fault

theorem mono {Q : α → α' → Prop} {e : Except Fault α} {e' : Except Fault α'} (h : Rel R e e')
    (hQ : ∀ {a a'}, R a a' → Q a a') : Rel Q e e' := by
  cases h with
  | ok ha => exact .ok (hQ ha)
  | error fault => exact .error fault

theorem eq {e e' : Except Fault α} (h : Rel Eq e e') : e' = e := by
  cases h with
  | ok ha => rw [ha]
  | error fault => rfl

end Except.Rel

/-- From related states the tasks end alike, and the states stay related. -/
def Task.Couples (S : σ → σ → Prop) (R : α → α' → Prop) (t : Task σ α) (t' : Task σ α') : Prop :=
  ∀ s s', S s s' → Except.Rel R (t.run s).1 (t'.run s').1 ∧ S (t.run s).2 (t'.run s').2

namespace Task.Couples

variable {S : σ → σ → Prop} {R : α → α' → Prop} {Q : β → β' → Prop}

theorem pure {a : α} {a' : α'} (h : R a a') :
    Couples S R (Pure.pure a : Task σ α) (Pure.pure a') :=
  fun _ _ hs => ⟨.ok h, hs⟩

theorem fail (fault : Fault) : Couples S R (Task.fail fault : Task σ α) (Task.fail fault) :=
  fun _ _ hs => ⟨.error fault, hs⟩

theorem ofExcept {e : Except Fault α} {e' : Except Fault α'} (h : Except.Rel R e e') :
    Couples S R (Task.ofExcept e : Task σ α) (Task.ofExcept e') :=
  fun _ _ hs => ⟨h, hs⟩

/-- What is the same is known as well. -/
theorem ofExcept_eq {e e' : Except Fault α} (h : e' = e) :
    Couples S (fun a a' => a = a' ∧ e = .ok a) (Task.ofExcept e : Task σ α) (Task.ofExcept e') := by
  subst h
  cases e' with
  | ok a => exact ofExcept (.ok ⟨rfl, rfl⟩)
  | error fault => exact fail fault

theorem state : Couples S S Task.state Task.state :=
  fun _ _ hs => ⟨.ok hs, hs⟩

theorem update {f f' : σ → σ} (h : ∀ s s', S s s' → S (f s) (f' s')) :
    Couples S Eq (Task.update f) (Task.update f') :=
  fun s s' hs => ⟨.ok rfl, h s s' hs⟩

/-- How the two end, and where that leaves them. -/
theorem ends {t : Task σ α} {t' : Task σ α'} (h : Couples S R t t') {s s' : σ} (hs : S s s') :
    (∃ a a' s₁ s₁', t.run s = (.ok a, s₁) ∧ t'.run s' = (.ok a', s₁') ∧ R a a' ∧ S s₁ s₁') ∨
      ∃ fault s₁ s₁', t.run s = (.error fault, s₁) ∧ t'.run s' = (.error fault, s₁') ∧
        S s₁ s₁' := by
  obtain ⟨he, hs₁⟩ := h s s' hs
  generalize t.run s = out at he hs₁ ⊢
  generalize t'.run s' = out' at he hs₁ ⊢
  obtain ⟨e, s₁⟩ := out
  obtain ⟨e', s₁'⟩ := out'
  cases he with
  | ok ha => exact .inl ⟨_, _, _, _, rfl, rfl, ha, hs₁⟩
  | error fault => exact .inr ⟨_, _, _, rfl, rfl, hs₁⟩

theorem bind {t : Task σ α} {t' : Task σ α'} {f : α → Task σ β} {f' : α' → Task σ β'}
    (h : Couples S R t t') (hf : ∀ a a', R a a' → Couples S Q (f a) (f' a')) :
    Couples S Q (t >>= f) (t' >>= f') := by
  intro s s' hs
  obtain ⟨a, a', s₁, s₁', hrun, hrun', ha, hs₁⟩ | ⟨fault, s₁, s₁', hrun, hrun', hs₁⟩ := h.ends hs
  · rw [run_bind_ok hrun, run_bind_ok hrun']
    exact hf a a' ha s₁ s₁' hs₁
  · rw [run_bind_error hrun, run_bind_error hrun']
    exact ⟨.error fault, hs₁⟩

theorem rescue {t : Task σ α} {t' : Task σ α'} {f : Fault → Task σ α} {f' : Fault → Task σ α'}
    (h : Couples S R t t') (hf : ∀ fault, Couples S R (f fault) (f' fault)) :
    Couples S R (t.rescue f) (t'.rescue f') := by
  intro s s' hs
  rw [run_rescue, run_rescue]
  obtain ⟨a, a', s₁, s₁', hrun, hrun', ha, hs₁⟩ | ⟨fault, s₁, s₁', hrun, hrun', hs₁⟩ := h.ends hs
  · rw [hrun, hrun']
    exact ⟨.ok ha, hs₁⟩
  · rw [hrun, hrun']
    exact hf fault s₁ s₁' hs₁

theorem mono {P : α → α' → Prop} {t : Task σ α} {t' : Task σ α'} (h : Couples S R t t')
    (hP : ∀ {a a'}, R a a' → P a a') : Couples S P t t' :=
  fun s s' hs => ⟨(h s s' hs).1.mono hP, (h s s' hs).2⟩

end Task.Couples

/-! ## Jobs -/

/-- Worlds with related clusters, in which the same was logged. -/
structure World.Rel (S : σ → σ → Prop) (w w' : World σ) : Prop where
  cluster : S w.cluster w'.cluster
  journal : w'.journal = w.journal

theorem World.Rel.log {S : σ → σ → Prop} {w w' : World σ} (h : World.Rel S w w')
    (source : LogSource) (level : LogLevel) (text : String) :
    World.Rel S (w.log source level text) (w'.log source level text) where
  cluster := h.cluster
  journal := by rw [World.log, World.log, h.journal]

namespace Task.Couples

variable {S : σ → σ → Prop} {R : α → α' → Prop}

theorem call {t : Task σ α} {t' : Task σ α'} (h : Couples S R t t') :
    Couples (World.Rel S) R (Job.call t) (Job.call t') := by
  intro w w' hw
  obtain ⟨he, hs⟩ := h _ _ hw.cluster
  exact ⟨he, hs, hw.journal⟩

theorem log (source : LogSource) (level : LogLevel) (text : String) :
    Couples (World.Rel S) Eq (Job.log source level text) (Job.log source level text) :=
  update fun _ _ hw => hw.log source level text

end Task.Couples

end MoodleTenancy
