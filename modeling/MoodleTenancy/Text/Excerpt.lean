/-!
# Excerpts of long text

Long text is shown in part: by its beginning, or, over a budget of UTF-8 bytes, by its two ends, cut
between characters.

* `firstChars n s`: at most `n` characters of the beginning.
* `byteCount cs`: the length in UTF-8 bytes.
* `takeBytes n cs`: the longest beginning of at most `n` bytes.
* `excerpt cs`: the text itself up to 50 bytes, else at most 25 bytes of its beginning, an ellipsis
  and at most 24 bytes of its end.
-/

namespace MoodleTenancy.Text
set_option autoImplicit false

def firstChars (n : Nat) (s : String) : String := String.ofList (s.toList.take n)

def byteCount (cs : List Char) : Nat :=
  cs.foldr (fun c n => c.utf8Size + n) 0

def takeBytes : Nat → List Char → List Char
  | _, [] => []
  | n, c :: cs => if c.utf8Size ≤ n then c :: takeBytes (n - c.utf8Size) cs else []

/-- At most `n` bytes of the end. -/
def takeEndBytes (n : Nat) (cs : List Char) : List Char :=
  (takeBytes n cs.reverse).reverse

def excerpt (cs : List Char) : List Char :=
  if byteCount cs ≤ 50 then cs
  else takeBytes 25 cs ++ ['.', '.', '.'] ++ takeEndBytes 24 cs

end MoodleTenancy.Text
