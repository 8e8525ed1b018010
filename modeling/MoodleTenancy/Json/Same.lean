import MoodleTenancy.Json.Basic

/-!
# Sameness of JSON values

Two values are the same if they look the same after numbers are compared by value: 1, 1.0 and true
are one number. A status is written only if some field is not the same as the stored one.

* `Json.number?`: the number that a value counts as.
* `Json.same`: the comparison.
-/

namespace MoodleTenancy
set_option autoImplicit false

open Numeric

namespace Json

/-- The number that a value counts as. -/
def number? : Json → Option Magnitude
  | bool b => some (.whole (if b then 1 else 0))
  | int n => some (.whole n)
  | float x => some (.ofBinary64 x)
  | _ => none

mutual

/-- Equality up to the kind of number. -/
def same : Json → Json → Bool
  | null, null => true
  | str s, str t => s == t
  | arr xs, arr ys => sameItems xs ys
  | obj fs, obj gs => fs.length == gs.length && sameFields fs gs
  | a, b =>
    match a.number?, b.number? with
    | some n, some m => n.same m
    | _, _ => false
termination_by structural a => a

def sameItems : List Json → List Json → Bool
  | [], [] => true
  | x :: xs, y :: ys => same x y && sameItems xs ys
  | _, _ => false
termination_by structural xs => xs

/-- Whether all fields of the first are among the second's, in any order. -/
def sameFields : List (Key × Json) → List (Key × Json) → Bool
  | [], _ => true
  | (k, v) :: fs, gs => (match Fields.get? k gs with
    | some w => same v w
    | none => false) && sameFields fs gs
termination_by structural fs => fs

end

example : same (int 1) (float (.finite false Binary64.one)) = true := by decide +kernel
example : same (bool true) (int 1) = true := by decide
example : same (bool false) null = false := by decide

end Json
end MoodleTenancy
