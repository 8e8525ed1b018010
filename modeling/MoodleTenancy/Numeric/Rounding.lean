/-!
# Rounding a quotient

* `roundHalfEven n d`: the whole number nearest to `n / d`; of two equally near, the even one.
-/

namespace MoodleTenancy.Numeric
set_option autoImplicit false

def roundHalfEven (n d : Nat) : Nat :=
  if 2 * (n % d) < d ∨ (2 * (n % d) = d ∧ n / d % 2 = 0) then n / d else n / d + 1

theorem roundHalfEven_le (n d : Nat) : roundHalfEven n d ≤ n / d + 1 := by
  unfold roundHalfEven
  split <;> omega

end MoodleTenancy.Numeric
