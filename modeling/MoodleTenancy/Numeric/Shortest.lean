import MoodleTenancy.Numeric.Binary64
import MoodleTenancy.Text.Numeral

/-!
# The shortest decimal text of a binary number

A number is written with the fewest digits that read back as it, and among those with the digits
nearest to it. The reals that read back as a number form an interval around it; on each decimal grid
the number has two neighbours, and the coarsest grid with a neighbour inside the interval gives the
digits.

* `Decimal`: `digits · 10 ^ exponent`.
* `Decimal.ofUnits u`: the shortest decimal of a positive count of units.
* `Layout`: where positional notation ends, and how an exponent is written.
* `Layout.text`: the text of a number.
-/

namespace MoodleTenancy.Numeric
set_option autoImplicit false

/-- The number `digits · 10 ^ exponent`. -/
structure Decimal where
  digits : Nat
  exponent : Int
deriving DecidableEq

namespace Decimal

/-- Numerator and denominator of a count of units, measured in steps of `10 ^ exponent`. -/
def steps (units : Nat) (exponent : Int) : Nat × Nat :=
  (units * Nat.pow 10 (-exponent).toNat, Nat.pow 10 exponent.toNat * Binary64.one)

/-- Half the distances to the lower and the upper neighbour, in quarter units. Below a power of two
the grid of the format is twice as fine. -/
def halfGaps (units : Nat) : Nat × Nat :=
  let g := Binary64.gap units
  (if 1 < g ∧ units = Nat.pow 2 units.log2 then g else 2 * g, 2 * g)

/-- Whether `d` steps of `10 ^ exponent` read back as `units`. -/
def readsBack (units : Nat) (exponent : Int) (d : Nat) : Bool :=
  let point := 4 * d * (steps units exponent).2
  let scale := Nat.pow 10 (-exponent).toNat
  let low := (4 * units - (halfGaps units).1) * scale
  let high := (4 * units + (halfGaps units).2) * scale
  if units / Binary64.gap units % 2 = 0 then low ≤ point && point ≤ high
  else low < point && point < high

/-- The neighbour of `units` on the grid of `10 ^ exponent` that reads back, the nearer of two. -/
def neighbour? (units : Nat) (exponent : Int) : Option Nat :=
  let (n, d) := steps units exponent
  let below := n / d
  let nearer := roundHalfEven n d
  let farther := if nearer = below then below + 1 else below
  if readsBack units exponent nearer then some nearer
  else if readsBack units exponent farther then some farther
  else none

/-- The first of `fuel` grids, from `exponent` downwards, that holds a neighbour. -/
def search (units : Nat) : (fuel : Nat) → (exponent : Int) → Decimal
  | 0, e => ⟨0, e⟩
  | fuel + 1, e =>
    match neighbour? units e with
    | some d => ⟨d, e⟩
    | none => search units fuel (e - 1)

/-- The shortest decimal that reads back; on the grid of `10 ^ -1074` every count of units is a
point, so the search ends. -/
def ofUnits (units : Nat) : Decimal :=
  search units 1384 309

end Decimal

/-- How a decimal is laid out. -/
structure Layout where
  /-- The least decimal exponent written positionally. -/
  least : Int
  /-- The first decimal exponent no longer written positionally. -/
  beyond : Int
  /-- The least number of digits in a written exponent. -/
  exponentDigits : Nat

namespace Layout

/-- Digits `ds` with the point after the first `point` of them, and at least one digit behind it. -/
def positional (ds : List Char) (point : Int) : List Char :=
  if point ≤ 0 then '0' :: '.' :: List.replicate (-point).toNat '0' ++ ds
  else if point.toNat < ds.length then ds.take point.toNat ++ '.' :: ds.drop point.toNat
  else ds ++ List.replicate (point.toNat - ds.length) '0' ++ ['.', '0']

/-- Digits `ds` with the point after the first, and a signed exponent. -/
def scientific (width : Nat) (ds : List Char) (exponent : Int) : List Char :=
  ds.take 1 ++ (if ds.length ≤ 1 then [] else '.' :: ds.drop 1) ++
    'e' :: (if exponent < 0 then '-' else '+') :: Text.decimal width exponent.natAbs

def magnitude (l : Layout) (units : Nat) : List Char :=
  if units = 0 then ['0', '.', '0']
  else
    let d := Decimal.ofUnits units
    let ds := Nat.toDigits 10 d.digits
    let exponent := d.exponent + ds.length - 1
    if l.least ≤ exponent ∧ exponent < l.beyond then positional ds (exponent + 1)
    else scientific l.exponentDigits ds exponent

def text (l : Layout) : Binary64 → String
  | .finite s u => String.ofList ((if s then ['-'] else []) ++ l.magnitude u)
  | .infinite s => if s then "-inf" else "inf"
  | .undefined => "nan"

end Layout

/-- Positional from 10⁻⁴ up to 10¹⁶, and exponents of at least two digits beyond. -/
def Binary64.layout : Layout := ⟨-4, 16, 2⟩

/-- The text of a number: the shortest that reads back. -/
def Binary64.text (x : Binary64) : String :=
  Binary64.layout.text x

end MoodleTenancy.Numeric
