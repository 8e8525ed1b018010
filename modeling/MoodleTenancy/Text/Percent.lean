import MoodleTenancy.Text.Numeral

/-!
# Percent encoding

A path segment keeps the unreserved characters of a URL; every other character is written as the
upper-case hexadecimal codes of its UTF-8 bytes, each after a percent sign.

* `isUnreserved`: letters, digits, hyphen, full stop, low line and tilde.
* `percentEncode`: the encoded segment, which has no slash.
-/

namespace MoodleTenancy.Text
set_option autoImplicit false

def isUnreserved (c : Char) : Bool :=
  c.isAlphanum || c == '-' || c == '.' || c == '_' || c == '~'

def percentByte (b : UInt8) : List Char :=
  '%' :: (hexadecimal 2 b.toNat).map Char.toUpper

def percentChar (c : Char) : List Char :=
  if isUnreserved c then [c] else (String.utf8EncodeChar c).flatMap percentByte

def percentEncode (s : String) : String :=
  String.ofList (s.toList.flatMap percentChar)

end MoodleTenancy.Text
