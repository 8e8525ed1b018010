import MoodleTenancy.Text.Numeral

/-!
# UTC timestamps

* `civilDate d`: year, month and day of the `d`th day after 1 January 1970, Gregorian calendar.
* `Instant.stamp?`: the text of an instant, as in 1970-01-01T00:00:07Z, if its year has a number of
  one to four digits.
* `Unwritable`: why there is no such text.

The calendar is counted in eras of 400 years from 1 March of year 0, so that a leap day is the last
day of its year.
-/

namespace MoodleTenancy.Time
set_option autoImplicit false

structure CivilDate where
  year : Int
  month : Nat
  day : Nat
deriving DecidableEq

/-- Days between 1 March of year 0 and 1 January 1970. -/
def epochOffset : Int := 719468

def civilDate (days : Int) : CivilDate :=
  let d := days + epochOffset
  let era := d.fdiv 146097
  let dayOfEra := (d.fmod 146097).toNat
  let yearOfEra :=
    (dayOfEra - dayOfEra / 1460 + dayOfEra / 36524 - dayOfEra / 146096) / 365
  let dayOfYear := dayOfEra - (365 * yearOfEra + yearOfEra / 4 - yearOfEra / 100)
  let monthIndex := (5 * dayOfYear + 2) / 153
  let day := dayOfYear - (153 * monthIndex + 2) / 5 + 1
  let month := if monthIndex < 10 then monthIndex + 3 else monthIndex - 9
  let year := era * 400 + yearOfEra + (if month ≤ 2 then 1 else 0)
  ⟨year, month, day⟩

example : civilDate 0 = ⟨1970, 1, 1⟩ := by decide
example : civilDate 11016 = ⟨2000, 2, 29⟩ := by decide
example : civilDate (-1) = ⟨1969, 12, 31⟩ := by decide

/-! ## Instants -/

/-- Whole seconds after the start of 1970. -/
abbrev Instant := Int

/-- Why an instant has no text. -/
inductive Unwritable where
  /-- The number of days has more than 32 bits. -/
  | beyondWords
  /-- There are more days than the longest span of time has. -/
  | beyondSpans (days : Int)
  /-- The year is not one of 1 to 9999. -/
  | beyondYears
deriving DecidableEq

/-- The least number of days that is too great for 32 bits. -/
def wordLimit : Int := Nat.pow 2 31

/-- The greatest number of days in a span of time, either way. -/
def longestSpan : Int := 999999999

namespace Instant

/-- The days from the start of 1970 to an instant, the day of the instant not counted. -/
def days (t : Instant) : Int := t.fdiv 86400

/-- The text of an instant of the years 1 to 9999. The year is written without zeros in front. -/
def text (t : Instant) : String :=
  let date := civilDate (days t)
  let s := (t.fmod 86400).toNat
  String.ofList (Text.decimal 1 date.year.toNat ++ '-' :: Text.decimal 2 date.month ++
    '-' :: Text.decimal 2 date.day ++ 'T' :: Text.decimal 2 (s / 3600) ++
    ':' :: Text.decimal 2 (s / 60 % 60) ++ ':' :: Text.decimal 2 (s % 60) ++ ['Z'])

def stamp? (t : Instant) : Except Unwritable String :=
  if days t < -wordLimit ∨ wordLimit ≤ days t then .error .beyondWords
  else if days t < -longestSpan ∨ longestSpan < days t then .error (.beyondSpans (days t))
  else if (civilDate (days t)).year < 1 ∨ 9999 < (civilDate (days t)).year then .error .beyondYears
  else .ok (text t)

end Instant
end MoodleTenancy.Time
