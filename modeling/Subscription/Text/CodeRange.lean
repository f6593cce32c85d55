/-!
# Classes of characters as ranges of code points

The Unicode properties that this library needs are listed as ranges of code points, both ends
included, in ascending order.
-/

namespace Subscription

/-- Ranges of code points, each by its first and its last. -/
abbrev CodeRanges := List (Nat × Nat)

/-- Whether a character lies in one of the ranges. -/
def CodeRanges.contains (ranges : CodeRanges) (c : Char) : Bool :=
  ranges.any fun range => range.1 ≤ c.toNat && c.toNat ≤ range.2

end Subscription
