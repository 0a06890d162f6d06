/-
**Quoted texts in messages.**

A text is shown between double quotes. Inside, a double quote and a backslash are preceded by a
backslash, four control characters have a letter of their own, and any other character that has no
printed form or that combines with its neighbour is shown by its number in hexadecimal digits.
A single quote stands for itself.
-/
import Seeding.Text.Combining
import Seeding.Text.Unprintable

namespace Seeding.Text

/-- A character by its number: small hexadecimal digits without leading zeros, in braces. -/
def numbered (character : Char) : List Char :=
  ['\\', 'u', '\x7b'] ++ Nat.toDigits 16 character.toNat ++ ['\x7d']

/-- How one character is shown inside a quoted text. -/
def shown (character : Char) : List Char :=
  if character = '\x00' then ['\\', '0']
  else if character = '\t' then ['\\', 't']
  else if character = '\r' then ['\\', 'r']
  else if character = '\n' then ['\\', 'n']
  else if character = '"' then ['\\', '"']
  else if character = '\\' then ['\\', '\\']
  else if isCombining character || isUnprintable character then numbered character
  else [character]

/-- A text between double quotes, as messages show it. -/
def quoted (text : String) : String :=
  String.ofList ('"' :: text.toList.flatMap shown ++ ['"'])

end Seeding.Text
