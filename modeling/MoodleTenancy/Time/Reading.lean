import MoodleTenancy.Numeric.Reading
import MoodleTenancy.Text.Excerpt
import MoodleTenancy.Time.Moment

/-!
# Reading dates and times

A moment is written as a date such as 2024-02-29, with or without a time of day and an offset from
UTC, or as a number of seconds since the start of 1970.

* `DateFault`: what can be wrong with a date, in the order in which it is looked for.
* `date`: the date that a text writes, if nothing follows it.
* `dateTime?`, `unixTime?`: the moment of a date with a time, or of a number of seconds.
* `TimeFault`: why a value is no moment. `Moment.ofText`: the moment that a text writes.
-/

namespace MoodleTenancy.Time
set_option autoImplicit false

inductive DateFault where
  | tooShort
  | badYear
  | badSeparator
  | badMonth
  | badDay
  | noSuchMonth
  | noSuchDay
  | tooLong
  /-- A number of seconds beyond the years that have a number. -/
  | beyond (why : MomentFault)
deriving DecidableEq

def DateFault.message : DateFault → String
  | tooShort => "input is too short"
  | badYear => "invalid character in year"
  | badSeparator => "invalid date separator, expected \x60-\x60"
  | badMonth => "invalid character in month"
  | badDay => "invalid character in day"
  | noSuchMonth => "month value is outside expected range of 1-12"
  | noSuchDay => "day value is outside expected range"
  | tooLong => "unexpected extra characters at the end of the input"
  | beyond why => why.message

/-! ## Dates -/

/-- The number that digits write; other characters are refused. -/
def digitsValue? (cs : List Char) : Option Nat :=
  if cs.all Char.isDigit then some (Nat.ofDigitChars 10 cs 0) else none

def isLeap (year : Nat) : Bool :=
  year % 4 == 0 && (year % 100 != 0 || year % 400 == 0)

/-- The days of a month, if there is such a month. -/
def monthLength? (year month : Nat) : Option Nat :=
  if month = 2 then some (if isLeap year then 29 else 28)
  else if [4, 6, 9, 11].contains month then some 30
  else if 1 ≤ month ∧ month ≤ 12 then some 31
  else none

/-- The number in a part of a text. -/
def partValue (fault : DateFault) (cs : List Char) (start length : Nat) : Except DateFault Nat :=
  match digitsValue? ((cs.drop start).take length) with
  | some n => .ok n
  | none => .error fault

def hyphenAt (cs : List Char) (i : Nat) : Except DateFault Unit :=
  if cs[i]? = some '-' then .ok () else .error .badSeparator

/-- The date at the start of a text, and what follows it. -/
def leadingDate (cs : List Char) : Except DateFault (CivilDate × List Char) := do
  if Text.byteCount cs < 10 then .error .tooShort
  else
    let year ← partValue .badYear cs 0 4
    hyphenAt cs 4
    let month ← partValue .badMonth cs 5 2
    hyphenAt cs 7
    let day ← partValue .badDay cs 8 2
    match monthLength? year month with
    | none => .error .noSuchMonth
    | some length =>
      if day < 1 ∨ length < day then .error .noSuchDay
      else return (⟨year, month, day⟩, cs.drop 10)

def date (cs : List Char) : Except DateFault CivilDate := do
  match ← leadingDate cs with
  | (date, []) => return date
  | _ => .error .tooLong

/-! ## Times of day -/

def twoDigits? (bound : Nat) : List Char → Option (Nat × List Char)
  | a :: b :: rest => (digitsValue? [a, b]).bind fun n => if n < bound then some (n, rest) else none
  | _ => none

/-- The minutes that a text writes as hours and minutes, a colon between them or not. -/
def hoursMinutes? (cs : List Char) : Option Nat := do
  let (hours, rest) ← twoDigits? 24 cs
  let rest := match rest with
    | ':' :: rest => rest
    | rest => rest
  match ← twoDigits? 60 rest with
  | (minutes, []) => return 60 * hours + minutes
  | _ => none

/-- The offset from UTC that a text writes, in minutes. The empty text writes none. The minus sign
of typesetting does as well as the hyphen. -/
def offset? : List Char → Option (Option Int)
  | [] => some none
  | ['Z'] => some (some 0)
  | ['z'] => some (some 0)
  | '+' :: cs => (hoursMinutes? cs).map fun n => some (n : Int)
  | '-' :: cs => (hoursMinutes? cs).map fun n => some (-(n : Int))
  | '−' :: cs => (hoursMinutes? cs).map fun n => some (-(n : Int))
  | _ => none

/-- The microseconds that digits behind a point write; further digits are dropped. -/
def microseconds (digits : List Char) : Nat :=
  Nat.ofDigitChars 10 ((digits ++ List.replicate 6 '0').take 6) 0

/-- The microseconds behind whole seconds, and the offset. -/
def fractionOffset? : List Char → Option (Nat × Option Int)
  | c :: cs =>
    if c = '.' ∨ c = ',' then
      let digits := cs.takeWhile Char.isDigit
      if digits.isEmpty then none
      else (offset? (cs.dropWhile Char.isDigit)).map fun o => (microseconds digits, o)
    else (offset? (c :: cs)).map fun o => (0, o)
  | [] => some (0, none)

/-- The moment at a time of day that a text writes. -/
def atTime? (date : CivilDate) (cs : List Char) : Option Moment := do
  let (hours, rest) ← twoDigits? 24 cs
  let ':' :: rest := rest | none
  let (minutes, rest) ← twoDigits? 60 rest
  let seconds := 3600 * hours + 60 * minutes
  match rest with
  | ':' :: rest =>
    let (more, rest) ← twoDigits? 60 rest
    let (us, offset) ← fractionOffset? rest
    return ⟨date, seconds + more, us, offset⟩
  | rest => return ⟨date, seconds, 0, ← offset? rest⟩

/-- The moment that a text writes as a date with a time of day. -/
def dateTime? (cs : List Char) : Option Moment :=
  match leadingDate cs with
  | .ok (date, c :: rest) => if ['T', 't', ' ', '_'].contains c then atTime? date rest else none
  | _ => none

/-! ## Numbers of seconds -/

/-- The greatest integer that is read. -/
def longestInteger : Nat := Nat.pow 2 63 - 1

/-- The moment that a text writes as a whole number of seconds, if it writes one. -/
def wholeUnixTime? (negative : Bool) (digits : List Char) : Option (Except MomentFault Moment) :=
  let n := Nat.ofDigitChars 10 digits 0
  if digits.isEmpty || longestInteger < n then none
  else some (Moment.ofInteger (if negative then -(n : Int) else n))

def isNumeral (c : Char) : Bool :=
  c.isDigit || ['.', 'e', 'E', '+', '-'].contains c

/-- The moment that a text writes as a number of seconds with a point in it, if it writes one. -/
def fractionalUnixTime? (negative : Bool) (cs : List Char) : Option (Except MomentFault Moment) :=
  if cs.all isNumeral && Nat.ofDigitChars 10 (cs.takeWhile Char.isDigit) 0 ≤ longestInteger then
    (Numeric.magnitude? negative cs).map Moment.ofNumber
  else none

/-- The moment that a text writes as a number of seconds, perhaps with a fraction. -/
def unixTime? (cs : List Char) : Option (Except MomentFault Moment) :=
  let (negative, cs) := match cs with
    | '-' :: rest => (true, rest)
    | '+' :: rest => (false, rest)
    | cs => (false, cs)
  match cs.dropWhile Char.isDigit with
  | [] => wholeUnixTime? negative cs
  | '.' :: _ => fractionalUnixTime? negative cs
  | _ => none

/-! ## Moments -/

inductive TimeFault where
  /-- The text is not even a date. -/
  | noDate (why : DateFault)
  /-- The value is a date or a number without a moment. -/
  | noMoment (why : MomentFault)
deriving DecidableEq

/-- The start of a date. -/
def Moment.ofDate (cs : List Char) : Except TimeFault Moment := do
  let d ← (Time.date cs).mapError TimeFault.noDate
  (Moment.checked ⟨d, 0, 0, none⟩).mapError .noMoment

/-- The moment that a text writes: a date with a time, a number of seconds, or a date alone. -/
def Moment.ofText (s : String) : Except TimeFault Moment :=
  let cs := s.toList
  match dateTime? cs, unixTime? cs with
  | some m, _ => m.checked.mapError .noMoment
  | none, some (.ok m) => .ok m
  | none, some (.error .yearZero) => .error (.noMoment .yearZero)
  | none, some (.error why) =>
    if cs.contains '.' then Moment.ofDate cs else .error (.noDate (.beyond why))
  | none, none => Moment.ofDate cs

example : (Moment.ofText "2024-02-29T12:00:00Z").toOption.map Moment.text =
    some "2024-02-29T12:00:00+00:00" := by decide +kernel
example : (Moment.ofText "1700000000").toOption.map Moment.text =
    some "2023-11-14T22:13:20+00:00" := by decide +kernel
example : (Moment.ofText "2023-02-29").isOk = false := by decide +kernel

end MoodleTenancy.Time
