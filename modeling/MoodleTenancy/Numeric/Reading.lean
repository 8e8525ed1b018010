import MoodleTenancy.Numeric.Binary64
import MoodleTenancy.Text.Blank
import MoodleTenancy.Text.Digit

/-!
# Reading numbers from text

* `digits? cs`: the number that digits write, single low lines allowed between two digits.
* `integer`: an integer of a setting: white space around it, an optional sign, decimal digits of any
  script, 4300 of them at most.
* `binary64?`: a number of a setting: as above with an optional fraction and exponent, or a name of
  infinity or of the undefined value in any case.
* `laxInteger`: an integer of a declaration: a plain one, or text that is one after it was cleaned
  of what tells nothing about its value.
-/

namespace MoodleTenancy.Numeric
set_option autoImplicit false

open Text

/-! ## Signs and digits -/

/-- An optional sign and the rest. -/
def sign : List Char → Bool × List Char
  | '-' :: cs => (true, cs)
  | '+' :: cs => (false, cs)
  | cs => (false, cs)

/-- Continues a number after a digit. -/
def moreDigits : Nat → List Char → Option Nat
  | n, [] => some n
  | n, '_' :: c :: cs => (digit? c).bind fun d => moreDigits (10 * n + d) cs
  | n, c :: cs => (digit? c).bind fun d => moreDigits (10 * n + d) cs

/-- The number that at least one digit writes, single low lines allowed between two digits. -/
def digits? : List Char → Option Nat
  | [] => none
  | c :: cs => (digit? c).bind fun d => moreDigits d cs

/-- The integer with a magnitude. -/
def signed (negative : Bool) (n : Nat) : Int :=
  if negative then -(n : Int) else n

/-! ## Integers -/

/-- What a text says where an integer is expected. -/
inductive IntegerText where
  | integer (n : Int)
  /-- More digits than are read. -/
  | oversized (digits : Nat)
  | unreadable
deriving DecidableEq

/-- How many digits are read at most. -/
def digitLimit : Nat := 4300

/-- The number of digits at the start of a text, low lines between them not counted. Two low lines
together, and one behind the last digit, are no part of a number. -/
def runLength? : (afterDigit : Bool) → List Char → Option Nat
  | afterDigit, [] => if afterDigit then some 0 else none
  | afterDigit, c :: cs =>
    if (digit? c).isSome then (runLength? true cs).map (· + 1)
    else if c = '_' then if afterDigit then runLength? false cs else none
    else if afterDigit then some 0 else none

/-- An integer as settings write it. A number that is too long is found before what follows it. -/
def integer (s : String) : IntegerText :=
  let (negative, cs) := sign (trim isWhite s.toList)
  match runLength? false cs with
  | none => .unreadable
  | some n =>
    if digitLimit < n then .oversized n
    else
      match digits? cs with
      | some d => .integer (signed negative d)
      | none => .unreadable

/-! ### Integers in declarations -/

/-- What is left behind a zero: more zeros and low lines go, up to a digit or a sign. A point stays
with the character before it, and of nothing but zeros the last one stays. -/
def behindZero (before : Char) : List Char → Option (List Char)
  | [] => some [before]
  | c :: cs =>
    if c = '0' ∨ c = '_' then behindZero c cs
    else if c.isDigit ∨ c = '-' then some (c :: cs)
    else if c = '.' then some (before :: c :: cs)
    else none

/-- A text without the zeros in front; it has to start with a digit or a sign. -/
def withoutLeadingZeros : List Char → Option (List Char)
  | [] => none
  | c :: cs =>
    if c = '0' then behindZero c cs
    else if c.isDigit ∨ c = '-' then some (c :: cs)
    else none

/-- A text without the point in it, if only zeros follow that, at least one. -/
def withoutZeroFraction (cs : List Char) : List Char :=
  match cs.dropWhile (· != '.') with
  | _ :: '0' :: zeros => if zeros.all (· == '0') then cs.takeWhile (· != '.') else cs
  | _ => cs

/-- Whether two low lines stand together. -/
def hasDoubleLowLine : List Char → Bool
  | '_' :: '_' :: _ => true
  | _ :: cs => hasDoubleLowLine cs
  | [] => false

/-- A text without low lines, if each stands alone and inside. -/
def withoutInnerLowLines (cs : List Char) : List Char :=
  if cs.head? = some '_' ∨ cs.getLast? = some '_' ∨ hasDoubleLowLine cs then cs
  else cs.filter (· != '_')

/-- A natural number without zeros in front. Too many digits are found before what follows them. -/
def plainNatural : List Char → IntegerText
  | ['0'] => .integer 0
  | cs =>
    let run := cs.takeWhile Char.isDigit
    if run.isEmpty || run.head? == some '0' then .unreadable
    else if digitLimit < run.length then .oversized run.length
    else if run.length < cs.length then .unreadable
    else .integer (Nat.ofDigitChars 10 run 0)

/-- An integer in plain form: perhaps a minus sign, and digits without zeros in front. -/
def plainInteger : List Char → IntegerText
  | '-' :: cs =>
    match plainNatural cs with
    | .integer n => .integer (-n)
    | other => other
  | cs => plainNatural cs

/-- What is left of an integer behind its sign, cleaned. -/
def cleaned? (negative : Bool) (cs : List Char) : Option (List Char) :=
  (withoutLeadingZeros cs).map fun cs =>
    let cs := withoutInnerLowLines (withoutZeroFraction cs)
    if negative then '-' :: cs else cs

/-- What is left of an integer, cleaned. -/
def cleanedInteger? : List Char → Option (List Char)
  | '+' :: '-' :: _ => none
  | '+' :: cs => cleaned? false cs
  | '-' :: cs => cleaned? true cs
  | cs => cleaned? false cs

/-- An integer as declarations may write it inside text. Too many digits are found in plain text
alone; a text that has too many after it was trimmed and cleaned is not read. -/
def laxInteger (s : String) : IntegerText :=
  match plainInteger s.toList with
  | .unreadable =>
    match (cleanedInteger? (trim isWhite s.toList)).map plainInteger with
    | some (.integer n) => .integer n
    | _ => .unreadable
  | found => found

/-! ## Binary numbers -/

/-- The digits at the start of a text, each with its value, and the rest. -/
def leadingDigits : List Char → List Nat × List Char
  | [] => ([], [])
  | c :: cs =>
    match digit? c with
    | some d => (d :: (leadingDigits cs).1, (leadingDigits cs).2)
    | none => ([], c :: cs)

/-- Takes out low lines, each of which has to stand between two digits. -/
def withoutLowLines : (afterDigit : Bool) → List Char → Option (List Char)
  | _, [] => some []
  | afterDigit, '_' :: cs =>
    match cs with
    | [] => none
    | c :: _ => if afterDigit && (digit? c).isSome then withoutLowLines false cs else none
  | _, c :: cs => (withoutLowLines (digit? c).isSome cs).map (c :: ·)

def value (ds : List Nat) : Nat :=
  ds.foldl (fun n d => 10 * n + d) 0

/-- What follows the digits: nothing, or a letter e and a signed exponent. -/
def exponent? : List Char → Option Int
  | [] => some 0
  | c :: cs =>
    if c = 'e' ∨ c = 'E' then
      let (negative, rest) := sign cs
      match leadingDigits rest with
      | ([], _) => none
      | (ds, []) => some (signed negative (value ds))
      | _ => none
    else none

/-- A number without its sign: digits, a fraction, an exponent. -/
def magnitude? (negative : Bool) (cs : List Char) : Option Binary64 :=
  let (whole, rest) := leadingDigits cs
  let (fraction, rest) :=
    match rest with
    | '.' :: more => leadingDigits more
    | _ => ([], rest)
  if whole.isEmpty && fraction.isEmpty then none
  else (exponent? rest).map fun e =>
    Binary64.ofScaled negative (value (whole ++ fraction)) (e - fraction.length)

/-- A number as settings write it. -/
def binary64? (s : String) : Option Binary64 :=
  let (negative, cs) := sign (trim isWhite s.toList)
  let name := String.ofList (cs.map Char.toLower)
  if name = "inf" ∨ name = "infinity" then some (.infinite negative)
  else if name = "nan" then some .undefined
  else (withoutLowLines false cs).bind (magnitude? negative)

end MoodleTenancy.Numeric
