/-
**Unsigned decimal numerals.**

A numeral is an optional single `+` followed by one or more digits `0` to `9`; leading zeros are
free. `readBelow` reads one from left to right as long as its number stays below the given bound and
says what is wrong with any other text.
-/

namespace Seeding.Text

/-- The digits of a numeral: what follows an optional plus sign. -/
def unsigned : List Char → List Char
  | '+' :: digits => digits
  | digits => digits

/-- What is wrong with a text that should be a numeral. -/
inductive NumeralFault where
  | empty
  | strangeDigit
  | tooLarge
  deriving DecidableEq, Repr

/-- The text of such a fault. -/
def NumeralFault.message : NumeralFault → String
  | .empty => "cannot parse integer from empty string"
  | .strangeDigit => "invalid digit found in string"
  | .tooLarge => "number too large to fit in target type"

/-- Appends digits to a number that has to stay below `bound`. -/
def appendDigits (bound number : Nat) : List Char → Except NumeralFault Nat
  | [] => .ok number
  | digit :: rest =>
    let next := 10 * number + (digit.toNat - '0'.toNat)
    if !digit.isDigit then .error .strangeDigit
    else if next < bound then appendDigits bound next rest
    else .error .tooLarge

/-- Reads a numeral below `bound`, or gives the first fault. -/
def readBelow (bound : Nat) (numeral : List Char) : Except NumeralFault Nat :=
  if numeral = [] then .error .empty
  else if unsigned numeral = [] then .error .strangeDigit
  else appendDigits bound 0 (unsigned numeral)

end Seeding.Text
