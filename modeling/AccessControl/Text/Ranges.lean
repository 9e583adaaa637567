/-!
# Sets of characters given by ranges of code points

The character classes of Unicode that this library needs are tables: a few hundred ranges that no
rule shorter than the table describes. A table is a list of closed ranges in ascending order, and
membership stops at the first range that ends at or after the code point asked for.
-/

set_option autoImplicit false

namespace AccessControl.Text

/-- Whether a code point lies in one of some ascending closed ranges. -/
def inRanges : List (Nat × Nat) → Nat → Bool
  | [], _ => false
  | (first, last) :: rest, n => if n ≤ last then decide (first ≤ n) else inRanges rest n

end AccessControl.Text
