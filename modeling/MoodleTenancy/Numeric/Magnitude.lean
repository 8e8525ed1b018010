import MoodleTenancy.Numeric.Binary64

/-!
# Numbers as they are compared

An integer and a binary number that is one are the same number.

* `Magnitude`: the numbers. `Magnitude.ofBinary64`: the number that a binary number is.
* `Magnitude.same`, `Magnitude.lt`: the comparisons.
* `isWord`: the integers of 64 bits.
-/

namespace MoodleTenancy.Numeric
set_option autoImplicit false

/-! ## Words -/

/-- The least integer that is too great for 64 bits. -/
def wordLimit : Int := Nat.pow 2 63

/-- The integers of 64 bits. -/
def isWord (n : Int) : Bool := -wordLimit ≤ n && n < wordLimit

/-! ## Magnitudes -/

/-- An integer, or a binary number that is not one. -/
inductive Magnitude where
  | whole (n : Int)
  | other (x : Binary64)
deriving DecidableEq

namespace Magnitude

def ofBinary64 (x : Binary64) : Magnitude :=
  match x.toInt? with
  | some n => whole n
  | none => other x

def same : Magnitude → Magnitude → Bool
  | whole n, whole m => n == m
  | other x, other y => x.same y
  | _, _ => false

/-- Strictly less. -/
def lt : Magnitude → Magnitude → Bool
  | whole n, whole m => n < m
  | other x, other y => x.lt y
  | whole _, other (.infinite negative) => !negative
  | other (.infinite negative), whole _ => negative
  | whole n, other x => x.rank.any fun r => n * Binary64.one < r
  | other x, whole n => x.rank.any fun r => r < n * Binary64.one

end Magnitude
end MoodleTenancy.Numeric
