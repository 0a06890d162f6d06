/-
**Digits.**

A hexadecimal digit is one of `0` to `9`, `a` to `f` and `A` to `F`; the digits of a smaller base
are those whose value lies below it.
-/

namespace Seeding.Text

/-- The value of a hexadecimal digit of either case. -/
def hexValue? (character : Char) : Option Nat :=
  if '0' ≤ character ∧ character ≤ '9' then some (character.toNat - '0'.toNat)
  else if 'a' ≤ character ∧ character ≤ 'f' then some (character.toNat - 'a'.toNat + 10)
  else if 'A' ≤ character ∧ character ≤ 'F' then some (character.toNat - 'A'.toNat + 10)
  else none

/-- The value of a digit of a base up to sixteen. -/
def digitValue? (base : Nat) (character : Char) : Option Nat :=
  (hexValue? character).filter (· < base)

/-- The number that digits of a base up to sixteen denote; no digits denote zero. -/
def ofDigits? (base : Nat) (digits : List Char) : Option Nat :=
  (digits.mapM (digitValue? base)).map fun values =>
    values.foldl (fun number value => number * base + value) 0

end Seeding.Text
