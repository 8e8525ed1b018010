import MoodleTenancy.Numeric.Binary64
import MoodleTenancy.Time.Timestamp

/-!
# Moments

A moment is what objects of a cluster give as a time: a date and a time of day on some clock.

* `Moment`: the moments. `Moment.text`: as in 2024-02-29T12:30:00+00:00.
* `MomentFault`: why there is no such moment.
* `Moment.ofInteger`, `Moment.ofNumber`: the moment some seconds after the start of 1970.
-/

namespace MoodleTenancy.Time
set_option autoImplicit false

open Numeric

structure Moment where
  date : CivilDate
  /-- Whole seconds since midnight. -/
  seconds : Nat
  microseconds : Nat := 0
  /-- The minutes by which the clock is ahead of UTC, if it is known. -/
  offset : Option Int := none
deriving DecidableEq

inductive MomentFault where
  | beforeYears
  | afterYears
  | yearZero
  | undefinedNumber
deriving DecidableEq

def MomentFault.message : MomentFault → String
  | beforeYears => "dates before 0000 are not supported as unix timestamps"
  | afterYears => "dates after 9999 are not supported as unix timestamps"
  | yearZero => "year 0 is out of range"
  | undefinedNumber => "NaN values not permitted"

namespace Moment

/-! ## Text -/

/-- An offset from UTC, as in +05:30. -/
def offsetText (minutes : Int) : List Char :=
  let n := minutes.natAbs
  (if minutes < 0 then '-' else '+') :: Text.decimal 2 (n / 60) ++ ':' :: Text.decimal 2 (n % 60)

/-- The text of a moment. Microseconds are written if there are any. -/
def text (m : Moment) : String :=
  String.ofList (Text.decimal 4 m.date.year.toNat ++ '-' :: Text.decimal 2 m.date.month ++
    '-' :: Text.decimal 2 m.date.day ++ 'T' :: Text.decimal 2 (m.seconds / 3600) ++
    ':' :: Text.decimal 2 (m.seconds / 60 % 60) ++ ':' :: Text.decimal 2 (m.seconds % 60) ++
    (if m.microseconds = 0 then [] else '.' :: Text.decimal 6 m.microseconds) ++
    (m.offset.elim [] offsetText))

/-- The moment, unless it is in the year 0, which calendars of programs do not have. -/
def checked (m : Moment) : Except MomentFault Moment :=
  if m.date.year = 0 then .error .yearZero else .ok m

/-! ## Numbers of seconds -/

/-- The seconds from the start of year 0 to the start of 1970. -/
def earliest : Int := -62167219200

/-- The last second of the year 9999. -/
def latest : Int := 253402300799

/-- Greater numbers are taken for milliseconds. -/
def longestSeconds : Nat := 20000000000

/-- The moment some seconds and microseconds after the start of 1970, on a clock of UTC. -/
def ofSeconds (seconds : Int) (microseconds : Nat) : Except MomentFault Moment :=
  let s := seconds + (microseconds / 1000000 : Nat)
  if s < earliest then .error .beforeYears
  else if latest < s then .error .afterYears
  else checked ⟨civilDate (s.fdiv 86400), (s.fmod 86400).toNat, microseconds % 1000000, some 0⟩

/-- The moment some milliseconds and microseconds after the start of 1970. -/
def ofMilliseconds (n : Int) (microseconds : Nat) : Except MomentFault Moment :=
  ofSeconds (n.fdiv 1000) ((n.fmod 1000).toNat * 1000 + microseconds)

/-- The moment a whole number of seconds after the start of 1970; a great number is one of
milliseconds. -/
def ofInteger (n : Int) : Except MomentFault Moment :=
  if n.natAbs ≤ longestSeconds then ofSeconds n 0 else ofMilliseconds n 0

/-- The integer below a number, or the number itself if it is one. -/
def floor (negative : Bool) (units : Nat) : Int :=
  (if negative then -(units : Int) else units).fdiv Binary64.one

/-- The part of a number behind the point, counted upwards from the integer below it, in parts of
which `scale` make up one. It is taken in floating point and goes to the nearest integer, a half
upwards. -/
def partsBehindPoint (negative : Bool) (units : Nat) (scale : Int) : Nat :=
  let whole := (Binary64.ofInt? (-floor negative units)).getD .zero
  let behind := (Binary64.finite negative units).add whole
  match behind.mul ((Binary64.ofInt? scale).getD .zero) with
  | .finite _ parts => (2 * parts + Binary64.one) / (2 * Binary64.one)
  | _ => 0

/-- The moment a number of seconds after the start of 1970; a great number is one of
milliseconds. -/
def ofNumber : Binary64 → Except MomentFault Moment
  | .finite negative units =>
    let n := floor negative units
    if units ≤ longestSeconds * Binary64.one then
      ofSeconds n (partsBehindPoint negative units 1000000)
    else ofMilliseconds n (partsBehindPoint negative units 1000)
  | .infinite negative => .error (if negative then .beforeYears else .afterYears)
  | .undefined => .error .undefinedNumber

example : (ofInteger 1700000000).toOption.map text = some "2023-11-14T22:13:20+00:00" := by
  decide +kernel
example : (ofInteger (-1)).toOption.map text = some "1969-12-31T23:59:59+00:00" := by
  decide +kernel
example : text ⟨⟨2024, 1, 1⟩, 0, 123000, some 330⟩ = "2024-01-01T00:00:00.123000+05:30" := by
  decide +kernel

end Moment
end MoodleTenancy.Time
