/-
**Punycode.**

Punycode writes a label with other than ASCII characters in ASCII. What stands before its last
hyphen are the ASCII characters in order; the rest is a list of numbers, each of which says how far
to count on through all places of all greater characters to the next one that is to be inserted. A
number is written in digits `a` to `z` and `0` to `9`, the least first, and ends at the first digit
below a threshold that follows the size of the numbers before it.
-/
import Seeding.Text.Parts

namespace Seeding.Url.Punycode

/-- The value of a digit. -/
def digitValue? (character : Char) : Option Nat :=
  if character.isLower then some (character.toNat - 'a'.toNat)
  else if character.isUpper then some (character.toNat - 'A'.toNat)
  else if character.isDigit then some (character.toNat - '0'.toNat + 26)
  else none

/-- How far a number lies above the range of a single round of digits, in rounds and what is
left. -/
def rounds (number : Nat) : Nat × Nat :=
  if 455 < number then
    let (count, left) := rounds (number / 35)
    (count + 1, left)
  else (0, number)
termination_by number
decreasing_by omega

/-- The bias of the thresholds after a number, with so many characters present. -/
def adapted (number present : Nat) (isFirst : Bool) : Nat :=
  let scaled := if isFirst then number / 700 else number / 2
  let (count, left) := rounds (scaled + scaled / present)
  count * 36 + 36 * left / (left + 38)

/-- The state of the reader. -/
structure Reading where
  /-- The characters so far. -/
  output : List Char
  /-- The number of the latest character that was inserted; the first one is 128 or more. -/
  codePoint : Nat := 128
  /-- The place after that character. -/
  place : Nat := 0
  /-- The number that is being read. -/
  number : Nat := 0
  /-- The weight of its next digit. -/
  weight : Nat := 1
  /-- How many of its digits were read. -/
  taken : Nat := 0
  bias : Nat := 72

/-- The threshold of the next digit. -/
def Reading.threshold (reading : Reading) : Nat :=
  max 1 (min 26 (36 * (reading.taken + 1) - reading.bias))

/-- Inserts the character that a finished number names. -/
def Reading.insert (reading : Reading) (number : Nat) : Option Reading :=
  let present := reading.output.length + 1
  let target := reading.place + number
  let codePoint := reading.codePoint + target / present
  let place := target % present
  if codePoint.isValidChar then some {
    output := reading.output.insertIdx place (Char.ofNat codePoint)
    codePoint
    place := place + 1
    bias := adapted number present (reading.place = 0) }
  else none

/-- Reads a digit. -/
def Reading.step (reading : Reading) (digit : Nat) : Option Reading :=
  let number := reading.number + digit * reading.weight
  if digit < reading.threshold then reading.insert number
  else some { reading with
    number
    weight := reading.weight * (36 - reading.threshold)
    taken := reading.taken + 1 }

/-- The characters that a text in Punycode stands for. -/
def decode? (text : List Char) : Option (List Char) := do
  let (basic, digits) := match Text.cutLast? (· = '-') text with
    | some (first :: others, digits) => (first :: others, digits)
    | _ => ([], text)
  let values ← digits.mapM digitValue?
  let reading ← values.foldlM Reading.step { output := basic }
  if reading.taken = 0 then some reading.output else none

end Seeding.Url.Punycode
