import MoodleTenancy.Text.Blank

/-!
# Comma-separated lists

* `pieces cs`: what stands between the commas.
* `items s`: the pieces, trimmed, without the blank ones.
-/

namespace MoodleTenancy.Text
set_option autoImplicit false

/-- What stands between the commas; one piece more than there are commas. -/
def pieces : List Char → List (List Char)
  | [] => [[]]
  | c :: cs =>
    if c = ',' then [] :: pieces cs
    else
      match pieces cs with
      | [] => [[c]]
      | p :: ps => (c :: p) :: ps

/-- The trimmed pieces that are not empty, in order. -/
def items (s : String) : List String :=
  (((pieces s.toList).map (trim isBlank)).filter fun p => !p.isEmpty).map String.ofList

end MoodleTenancy.Text
