/-!
# Tables

A table is a list of keys with values; the first entry of a key counts.

* `Table.get?`, `Table.insert`, `Table.erase`, `Table.eraseWhere`, `Table.keys`.
* `get?_insert`, `get?_erase`, `get?_eraseWhere`: what each does to the values.
-/

namespace MoodleTenancy
set_option autoImplicit false

abbrev Table (κ ν : Type) := List (κ × ν)

namespace Table

variable {κ ν : Type} [DecidableEq κ]

def get? (k : κ) : Table κ ν → Option ν
  | [] => none
  | (l, v) :: rest => if l = k then some v else get? k rest

/-- Gives a key the value, in place or at the end. -/
def insert (k : κ) (v : ν) : Table κ ν → Table κ ν
  | [] => [(k, v)]
  | (l, w) :: rest => if l = k then (k, v) :: rest else (l, w) :: insert k v rest

/-- Drops the keys that `p` holds of. -/
def eraseWhere (p : κ → Bool) (t : Table κ ν) : Table κ ν :=
  t.filter fun e => !p e.1

def erase (k : κ) (t : Table κ ν) : Table κ ν :=
  eraseWhere (fun l => l = k) t

omit [DecidableEq κ] in
def keys (t : Table κ ν) : List κ := t.map (·.1)

@[simp] theorem get?_nil (k : κ) : get? k ([] : Table κ ν) = none := rfl

theorem get?_cons (k l : κ) (v : ν) (rest : Table κ ν) :
    get? k ((l, v) :: rest) = if l = k then some v else get? k rest := rfl

theorem get?_insert (k l : κ) (v : ν) (t : Table κ ν) :
    get? k (insert l v t) = if l = k then some v else get? k t := by
  induction t with
  | nil => simp [insert, get?_cons]
  | cons e rest ih =>
    obtain ⟨m, w⟩ := e
    by_cases h : m = l
    · simp only [insert, h, if_true, get?_cons]
      split <;> rfl
    · simp only [insert, h, if_false, get?_cons, ih]
      by_cases hk : m = k
      · have : l ≠ k := fun e => h (hk.trans e.symm)
        simp [hk, this]
      · simp [hk]

@[simp] theorem get?_insert_self (k : κ) (v : ν) (t : Table κ ν) :
    get? k (insert k v t) = some v := by
  simp [get?_insert]

theorem get?_insert_ne {k l : κ} (h : l ≠ k) (v : ν) (t : Table κ ν) :
    get? k (insert l v t) = get? k t := by
  simp [get?_insert, h]

theorem get?_eraseWhere (p : κ → Bool) (k : κ) (t : Table κ ν) :
    get? k (eraseWhere p t) = if p k then none else get? k t := by
  induction t with
  | nil => simp [eraseWhere]
  | cons e rest ih =>
    obtain ⟨m, w⟩ := e
    simp only [eraseWhere, List.filter_cons] at ih ⊢
    cases hp : p m with
    | true =>
      simp only [Bool.not_true, Bool.false_eq_true, if_false, ih, get?_cons]
      by_cases hk : m = k
      · subst hk
        simp [hp]
      · simp [hk]
    | false =>
      simp only [Bool.not_false, if_true, get?_cons, ih]
      by_cases hk : m = k
      · subst hk
        simp [hp]
      · simp [hk]

theorem get?_erase (k l : κ) (t : Table κ ν) :
    get? k (erase l t) = if k = l then none else get? k t := by
  simp [erase, get?_eraseWhere]

end Table
end MoodleTenancy
