/-
**Ranges of code points.**

Sets of characters are given as closed ranges of code points in ascending order.
-/

namespace Seeding.Text

/-- Whether a character lies in one of the ranges. -/
def liesIn (ranges : Array (Nat × Nat)) (character : Char) : Bool :=
  ranges.any fun range => range.1 ≤ character.toNat && character.toNat ≤ range.2

end Seeding.Text
