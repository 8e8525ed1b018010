import MoodleTenancy.Text.Numeral
import MoodleTenancy.Text.Printable

/-!
# Quoted text

A text stands between apostrophes, or between double quotes when it holds an apostrophe and no
double quote. Inside, the mark itself and the backslash are escaped, and so is every character that
is not printable; all others stand for themselves.

* `mark cs`: the quotation mark chosen for a text.
* `escape m c`: the written form of one character between marks `m`.
* `quote s`: the quoted text.
-/

namespace MoodleTenancy.Text
set_option autoImplicit false

def mark (cs : List Char) : Char :=
  if cs.contains '\'' && !cs.contains '"' then '"' else '\''

/-- The written form of a character that is not printable. -/
def escapeCode (n : Nat) : List Char :=
  if n < 0x100 then '\\' :: 'x' :: hexadecimal 2 n
  else if n < 0x10000 then '\\' :: 'u' :: hexadecimal 4 n
  else '\\' :: 'U' :: hexadecimal 8 n

/-- The written form of a character between marks `m`. -/
def escape (m c : Char) : List Char :=
  if c = m ∨ c = '\\' then ['\\', c]
  else if c = '\n' then ['\\', 'n']
  else if c = '\r' then ['\\', 'r']
  else if c = '\t' then ['\\', 't']
  else if isPrintable c then [c]
  else escapeCode c.toNat

def quote (s : String) : String :=
  let cs := s.toList
  let m := mark cs
  String.ofList (m :: cs.flatMap (escape m) ++ [m])

end MoodleTenancy.Text
