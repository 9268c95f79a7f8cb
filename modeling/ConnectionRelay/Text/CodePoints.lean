/-
  ConnectionRelay.Text.CodePoints
  ───────────────────────────────
  **SETS OF CHARACTERS, BY RANGES OF CODE POINTS.**

  A character class of Unicode is written down as the ranges of its code points, ends
  included, in increasing order.
-/

namespace ConnectionRelay.Text

/-- Ranges of code points, ends included. -/
abbrev CodePoints := List (Nat × Nat)

namespace CodePoints

/-- Is a code point in one of the ranges? -/
def has (ranges : CodePoints) (n : Nat) : Bool :=
  ranges.any fun r => r.1 ≤ n && n ≤ r.2

end CodePoints

end ConnectionRelay.Text
