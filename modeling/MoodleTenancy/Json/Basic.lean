import MoodleTenancy.Json.Key

/-!
# JSON values

Tenant objects and their status are JSON: the cluster stores keys that no type here knows. Integers
and floating-point numbers are told apart, since 5 and 5.0 are read and written differently. An
object is a list of fields in the order in which their keys came.

An integer that was read has at most 4300 digits (`Numeric.digitLimit`), since neither JSON text nor
a text in a declaration is read that has a longer one. Integers of up to that length can be written,
so what was read can be. Only counting goes beyond it, and there the limit is checked
(`Json.writtenOut`).

* `Json`: the values.
* `Fields.get?`, `Fields.set`, `Fields.erase`, `Fields.overlay`: the fields of an object.
* `Json.ofFields`: an object from fields of which some are absent.
* `Json.ofOption`, `Json.toOption`: null and the value that is absent, in both directions.
* `Json.ofKey`, `Json.key?`: keys among the values.
* `Json.isTruthy`: whether a value counts as given; null, zero, false and what is empty do not.
* `Json.isText`: whether a value is a given text.
-/

namespace MoodleTenancy
set_option autoImplicit false

inductive Json where
  | null
  | bool (b : Bool)
  | int (n : Int)
  | float (x : Numeric.Binary64)
  | str (s : String)
  | arr (items : List Json)
  | obj (fields : List (Key × Json))
deriving Inhabited

/-! ## The fields of an object -/

/-- Fields of JSON values; the operations work on fields of any values. -/
abbrev Fields := List (Key × Json)

namespace Fields

variable {α : Type}

def get? (key : Key) : List (Key × α) → Option α
  | [] => none
  | (k, v) :: rest => if k.identity = key.identity then some v else get? key rest

/-- Gives `key` the value, in place or at the end. A key that is there keeps its form. -/
def set (key : Key) (value : α) : List (Key × α) → List (Key × α)
  | [] => [(key, value)]
  | (k, v) :: rest =>
    if k.identity = key.identity then (k, value) :: rest else (k, v) :: set key value rest

def erase (key : Key) (fields : List (Key × α)) : List (Key × α) :=
  fields.filter fun f => f.1.identity ≠ key.identity

/-- The fields with those of `patch` laid over them, key by key. -/
def overlay (fields patch : Fields) : Fields :=
  patch.foldl (fun acc f => set f.1 f.2 acc) fields

@[simp] theorem get?_nil (key : Key) : get? key ([] : List (Key × α)) = none := rfl

theorem get?_cons (key k : Key) (v : α) (rest : List (Key × α)) :
    get? key ((k, v) :: rest) = if k.identity = key.identity then some v else get? key rest := rfl

theorem get?_set (key k : Key) (v : α) (fields : List (Key × α)) :
    get? key (set k v fields) =
      if k.identity = key.identity then some v else get? key fields := by
  induction fields with
  | nil => simp [set, get?_cons]
  | cons f rest ih =>
    obtain ⟨k', v'⟩ := f
    by_cases h : k'.identity = k.identity
    · simp only [set, h, if_true, get?_cons]
      split <;> rfl
    · simp only [set, h, if_false, get?_cons, ih]
      by_cases hk : k'.identity = key.identity
      · have : k.identity ≠ key.identity := fun e => h (hk.trans e.symm)
        simp [hk, this]
      · simp [hk]

@[simp] theorem get?_set_self (key : Key) (v : α) (fields : List (Key × α)) :
    get? key (set key v fields) = some v := by
  simp [get?_set]

theorem get?_set_ne {key k : Key} (h : k.identity ≠ key.identity) (v : α)
    (fields : List (Key × α)) : get? key (set k v fields) = get? key fields := by
  simp [get?_set, h]

theorem get?_erase (key k : Key) (fields : List (Key × α)) :
    get? key (erase k fields) = if k.identity = key.identity then none else get? key fields := by
  induction fields with
  | nil => simp [erase]
  | cons f rest ih =>
    obtain ⟨k', v'⟩ := f
    simp only [erase, List.filter_cons] at ih ⊢
    by_cases h : k'.identity = k.identity
    · simp only [h, ne_eq, not_true, decide_false, Bool.false_eq_true, if_false, ih, get?_cons]
      split <;> rfl
    · simp only [h, ne_eq, not_false_eq_true, decide_true, if_true, get?_cons, ih]
      by_cases hk : k'.identity = key.identity
      · have : k.identity ≠ key.identity := fun e => h (hk.trans e.symm)
        simp [hk, this]
      · simp [hk]

@[simp] theorem overlay_nil (fields : Fields) : overlay fields [] = fields := rfl

end Fields

namespace Json

/-! ## Building values -/

/-- The fields that are present. -/
def presentFields (fields : List (String × Option Json)) : Fields :=
  fields.filterMap fun f => f.2.map fun v => (Key.text f.1, v)

/-- The object of the fields that are present. -/
def ofFields (fields : List (String × Option Json)) : Json :=
  obj (presentFields fields)

/-- The object of some fields; the last of several with one name counts. -/
def ofList (fields : List (String × Json)) : Json :=
  obj (Fields.overlay [] (fields.map fun f => (Key.text f.1, f.2)))

def strings (ss : List String) : Json :=
  arr (ss.map str)

/-- The value, or null if there is none. -/
def ofOption (v : Option Json) : Json :=
  v.getD null

/-- The value, unless it is null. -/
def toOption : Json → Option Json
  | null => none
  | j => some j

@[simp] theorem ofOption_toOption (j : Json) : ofOption j.toOption = j := by
  cases j <;> rfl

/-- A key as a value. -/
def ofKey : Key → Json
  | .text s => str s
  | .null => null
  | .flag b => bool b
  | .int n => int n
  | .float x => float x

/-- A value as a key. Lists and objects cannot be keys. -/
def key? : Json → Option Key
  | str s => some (.text s)
  | null => some .null
  | bool b => some (.flag b)
  | int n => some (.int n)
  | float x => some (.float x)
  | _ => none

@[simp] theorem key?_ofKey (k : Key) : (ofKey k).key? = some k := by
  cases k <;> rfl

/-! ## Looking at values -/

/-- The position that a value stands for. -/
def position? : Json → Option Int
  | int n => some n
  | bool b => some (if b then 1 else 0)
  | _ => none

/-- The field of an object; none of any other value. -/
def get? (key : Key) : Json → Option Json
  | obj fields => Fields.get? key fields
  | _ => none

@[simp] theorem get?_obj (key : Key) (fields : Fields) :
    (obj fields).get? key = Fields.get? key fields := rfl

/-- The object with a field set; any other value as it is. -/
def set (j : Json) (key : Key) (value : Json) : Json :=
  match j with
  | obj fields => obj (Fields.set key value fields)
  | j => j

/-- The object without a field; any other value as it is. -/
def erase (j : Json) (key : Key) : Json :=
  match j with
  | obj fields => obj (Fields.erase key fields)
  | j => j

@[simp] theorem set_obj (fields : Fields) (key : Key) (value : Json) :
    (obj fields).set key value = obj (Fields.set key value fields) := rfl

def isNull : Json → Bool
  | null => true
  | _ => false

/-- Whether a value counts as given. -/
def isTruthy : Json → Bool
  | null => false
  | bool b => b
  | int n => n != 0
  | float x => !x.isZero
  | str s => s != ""
  | arr items => !items.isEmpty
  | obj fields => !fields.isEmpty

/-- Whether a value is the text `s`. -/
def isText (s : String) : Json → Bool
  | str t => t = s
  | _ => false

/-- The value, or `default` in place of one that does not count as given. -/
def orElse (j default : Json) : Json :=
  if j.isTruthy then j else default

end Json
end MoodleTenancy
