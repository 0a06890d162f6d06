/-
**Binary64 in whole numbers.**

A binary64 number has 53 significant bits. `ofQuotient` rounds a quotient of at least `2 ^ 52` to
that many bits, to the nearest such number and to the even one of two that are equally near, so the
result is a whole number and no machine arithmetic is involved. `fitsProduct` tells whether the
product of two numbers, each rounded first, stays in the finite range.
-/

namespace Seeding.Binary64

/-- The number of significant bits. -/
def precision : Nat := 53

/-- A quotient rounded to the nearest whole number; a half goes to the even neighbour. -/
def roundQuotient (numerator denominator : Nat) : Nat :=
  let below := numerator / denominator
  let twice := 2 * (numerator % denominator)
  if denominator < twice ∨ (twice = denominator ∧ below % 2 = 1) then below + 1 else below

/-- A quotient of at least `2 ^ 52` rounded to 53 significant bits. -/
def ofQuotient (numerator denominator : Nat) : Nat :=
  let spare := Nat.pow 2 (Nat.log2 (numerator / denominator) + 1 - precision)
  roundQuotient numerator (denominator * spare) * spare

/-- A whole number rounded to 53 significant bits. -/
def ofNat (number : Nat) : Nat := ofQuotient number 1

/-- The least magnitude that rounds to infinity: half a unit above the largest finite number. -/
def overflow : Nat := Nat.pow 2 1024 - Nat.pow 2 970

/-- Whether the rounded product of two rounded whole numbers is finite. -/
def fitsProduct (first second : Nat) : Bool := ofNat first * ofNat second < overflow

end Seeding.Binary64
