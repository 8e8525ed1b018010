import MoodleTenancy.Numeric.Rounding

/-!
# Binary floating-point numbers of 64 bits

Every finite number of the format is a whole number of units of 2⁻¹⁰⁷⁴, so it is kept as a sign and
that count; sums, products and comparisons are exact on counts and then rounded once, to the nearest
number of the format, of two equally near to the one with an even last bit.

* `Binary64`: finite numbers, the two infinities and the undefined value.
* `Binary64.round neg n d`: the number nearest to `n / d` units.
* `Binary64.ofInt?`, `ofScaled`, `add`, `mul`, `min`: arithmetic.
* `Binary64.rank`: the order, in which the undefined value has no place.
* `Binary64.toInt?`: the integer that a number is.
-/

namespace MoodleTenancy.Numeric
set_option autoImplicit false

inductive Binary64 where
  /-- A count of units of 2⁻¹⁰⁷⁴ with a sign; zero has both signs. -/
  | finite (negative : Bool) (units : Nat)
  | infinite (negative : Bool)
  | undefined
deriving DecidableEq, Inhabited

namespace Binary64

/-- The units in the number one. -/
def one : Nat := Nat.pow 2 1074

/-- The least count of units beyond all finite numbers. -/
def limit : Nat := Nat.pow 2 2098

/-- The distance, in units, between neighbours in the binade of `units`. -/
def gap (units : Nat) : Nat := Nat.pow 2 (units.log2 - 52)

/-- The count on the grid of the format nearest to `n / d`. -/
def nearest (n d : Nat) : Nat :=
  roundHalfEven n (d * gap (n / d)) * gap (n / d)

/-- The number with a count on the grid; too great a count is infinite. -/
def ofUnits (negative : Bool) (units : Nat) : Binary64 :=
  if units < limit then finite negative units else infinite negative

/-- The number nearest to `n / d` units. -/
def round (negative : Bool) (n d : Nat) : Binary64 :=
  ofUnits negative (nearest n d)

def zero : Binary64 := finite false 0

/-! ## Reading -/

/-- The number nearest to an integer, unless that is infinite. -/
def ofInt? (n : Int) : Option Binary64 :=
  let units := nearest (n.natAbs * one) 1
  if units < limit then some (finite (n < 0) units) else none

/-- The number nearest to `digits · 10 ^ exponent`. A number with more than 400 digits before the
point is infinite and one with 400 zeros behind it is zero, so no power beyond is computed. -/
def ofScaled (negative : Bool) (digits : Nat) (exponent : Int) : Binary64 :=
  let size : Int := exponent + (Nat.toDigits 10 digits).length
  if digits = 0 ∨ size < -400 then finite negative 0
  else if 400 < size then infinite negative
  else if 0 ≤ exponent then round negative (digits * Nat.pow 10 exponent.toNat * one) 1
  else round negative (digits * one) (Nat.pow 10 (-exponent).toNat)

/-! ## Order -/

/-- Signed units, the infinities at the limits. -/
def rank : Binary64 → Option Int
  | finite false u => some u
  | finite true u => some (-(u : Int))
  | infinite false => some limit
  | infinite true => some (-(limit : Int))
  | undefined => none

/-- Strictly less; the undefined value is not comparable. -/
def lt (x y : Binary64) : Bool :=
  match x.rank, y.rank with
  | some a, some b => a < b
  | _, _ => false

/-- Numerically equal: the two zeros are, the undefined value is not even to itself. -/
def same (x y : Binary64) : Bool :=
  match x.rank, y.rank with
  | some a, some b => a = b
  | _, _ => false

/-- `y` if it is the lesser, else `x`. -/
def min (x y : Binary64) : Binary64 :=
  if y.lt x then y else x

/-! ## Arithmetic -/

def isZero : Binary64 → Bool
  | finite _ 0 => true
  | _ => false

def isNegative : Binary64 → Bool
  | finite s _ => s
  | infinite s => s
  | undefined => false

def add : Binary64 → Binary64 → Binary64
  | undefined, _ => undefined
  | _, undefined => undefined
  | infinite s, infinite t => if s = t then infinite s else undefined
  | infinite s, _ => infinite s
  | _, infinite t => infinite t
  | finite s a, finite t b =>
    if s = t then round s (a + b) 1
    else if a = b then zero
    else if b < a then round s (a - b) 1
    else round t (b - a) 1

def mul : Binary64 → Binary64 → Binary64
  | undefined, _ => undefined
  | _, undefined => undefined
  | finite s a, finite t b => round (s != t) (a * b) one
  | x, y =>
    if x.isZero || y.isZero then undefined else infinite (x.isNegative != y.isNegative)

/-! ## Integers among the numbers -/

def isFinite : Binary64 → Bool
  | finite _ _ => true
  | _ => false

/-- The integer that a number is, if it is one. -/
def toInt? : Binary64 → Option Int
  | finite s u =>
    if u % one = 0 then some (if s then -((u / one : Nat) : Int) else (u / one : Nat)) else none
  | _ => none

/-- The nearest integer's digits; a half goes to the even neighbour. -/
def wholeText : Binary64 → String
  | finite s u =>
    String.ofList ((if s then ['-'] else []) ++ Nat.toDigits 10 (roundHalfEven u one))
  | infinite s => if s then "-inf" else "inf"
  | undefined => "nan"

end Binary64
end MoodleTenancy.Numeric
