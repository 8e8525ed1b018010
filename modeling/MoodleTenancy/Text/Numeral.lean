/-!
# Digits of natural numbers

* `hexadecimal w n`: lower-case hexadecimal digits, padded with zeros to `w`.
* `decimal w n`: decimal digits, padded with zeros to `w`.
-/

namespace MoodleTenancy.Text
set_option autoImplicit false

/-- `cs` with zeros in front, at least `width` characters long. -/
def zeroPadded (width : Nat) (cs : List Char) : List Char :=
  List.replicate (width - cs.length) '0' ++ cs

def hexadecimal (width n : Nat) : List Char :=
  zeroPadded width (Nat.toDigits 16 n)

def decimal (width n : Nat) : List Char :=
  zeroPadded width (Nat.toDigits 10 n)

end MoodleTenancy.Text
