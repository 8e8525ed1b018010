/-!
# Blank characters

* `isWhite`: the characters with the Unicode property White_Space.
* `isBlank`: those and the four information separators U+001C to U+001F, which are blank around the
  items of a list, though not around a numeral.
* `trim p cs`: the characters between the first and the last one that `p` does not hold of.
-/

namespace MoodleTenancy.Text
set_option autoImplicit false

/-- The Unicode property White_Space. -/
def isWhite (c : Char) : Bool :=
  let n := c.toNat
  (9 ≤ n && n ≤ 13) || n == 0x20 || n == 0x85 || n == 0xA0 || n == 0x1680 ||
    (0x2000 ≤ n && n ≤ 0x200A) || n == 0x2028 || n == 0x2029 || n == 0x202F || n == 0x205F ||
    n == 0x3000

/-- White space, or one of the information separators U+001C to U+001F. -/
def isBlank (c : Char) : Bool :=
  isWhite c || (0x1C ≤ c.toNat && c.toNat ≤ 0x1F)

theorem isBlank_of_isWhite {c : Char} (h : isWhite c = true) : isBlank c = true := by
  simp [isBlank, h]

/-! ## Trimming -/

/-- Drops what `p` holds of at the end. -/
def trimEnd (p : Char → Bool) (cs : List Char) : List Char :=
  (cs.reverse.dropWhile p).reverse

/-- Drops what `p` holds of at both ends. -/
def trim (p : Char → Bool) (cs : List Char) : List Char :=
  trimEnd p (cs.dropWhile p)

@[simp] theorem trim_nil (p : Char → Bool) : trim p [] = [] := rfl

end MoodleTenancy.Text
