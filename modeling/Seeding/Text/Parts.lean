/-
**Texts in parts.**

Marks divide a text. `parts` gives what stands before, between and after all of them, `cut` divides
at the first mark and `cutLast?` at the last one; the marks themselves are left out.
-/

namespace Seeding.Text

/-- The parts of a text between its marks; a text without a mark is one part. -/
def parts (isMark : Char → Bool) : List Char → List (List Char)
  | [] => [[]]
  | character :: rest =>
    if isMark character then [] :: parts isMark rest
    else match parts isMark rest with
      | [] => [[character]]
      | first :: others => (character :: first) :: others

/-- What stands before the first mark, and what follows it if there is one. -/
def cut (isMark : Char → Bool) (text : List Char) : List Char × Option (List Char) :=
  (text.takeWhile (!isMark ·), (text.dropWhile (!isMark ·)).tail?)

/-- What stands before and after the last mark. -/
def cutLast? (isMark : Char → Bool) (text : List Char) : Option (List Char × List Char) :=
  match cut isMark text.reverse with
  | (_, none) => none
  | (ending, some front) => some (front.reverse, ending.reverse)

end Seeding.Text
