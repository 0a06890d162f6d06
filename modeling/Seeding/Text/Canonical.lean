/-
**Canonical form.**

The same text can be written in several ways: an accented letter as one character or as a letter
and a mark, and marks of different classes in any order. The canonical form of Unicode first takes
every character apart, then sorts the marks after each base by their class, and then puts together
what becomes one character. A mark is put together with its base only if no mark of its own class or
a higher one stands between them.
-/
import Seeding.Text.CombiningClass
import Seeding.Text.Composition

namespace Seeding.Text

/-! ### Taking apart -/

/-- The parts of a character after so many steps; the second part of a pair is never a pair. -/
def takenApart : Nat → Char → List Char
  | 0, character => [character]
  | steps + 1, character =>
    match composedOf? character with
    | none => [character]
    | some (base, mark) => takenApart steps base ++ [mark]

/-- The parts of a character: three steps take every listed character apart. -/
def decomposed (character : Char) : List Char := takenApart 3 character

/-! ### Sorting -/

/-- Adds a character to a text, the latest character first: a mark goes before the marks of a higher
class. -/
def sortedIn (character : Char) : List Char → List Char
  | [] => [character]
  | latest :: earlier =>
    if combiningClass character ≠ 0 ∧ combiningClass character < combiningClass latest then
      latest :: sortedIn character earlier
    else character :: latest :: earlier

/-- A text with its marks sorted; the latest character is first. -/
def sortedReversed (text : List Char) : List Char :=
  text.foldl (fun sorted character => sortedIn character sorted) []

/-! ### Putting together -/

/-- A text that is being put together. -/
structure Assembly where
  /-- The finished part, the latest character first. -/
  finished : List Char := []
  /-- The base that marks may still go into. -/
  base? : Option Char := none
  /-- The marks that stay after the base, the latest first. -/
  marks : List Char := []

/-- All characters so far, the latest first. -/
def Assembly.reversed (assembly : Assembly) : List Char :=
  assembly.marks ++ assembly.base?.toList ++ assembly.finished

/-- Whether the marks after the base keep a character from it. -/
def Assembly.blocks (assembly : Assembly) (character : Char) : Bool :=
  match assembly.marks with
  | [] => false
  | latest :: _ => combiningClass character ≤ combiningClass latest

/-- Adds a character that does not become one with the base. -/
def Assembly.push (assembly : Assembly) (character : Char) : Assembly :=
  if combiningClass character = 0 then
    { finished := assembly.reversed, base? := some character }
  else { assembly with marks := character :: assembly.marks }

/-- Adds a character. -/
def Assembly.add (assembly : Assembly) (character : Char) : Assembly :=
  match assembly.base?.bind (composed? · character) with
  | none => assembly.push character
  | some whole =>
    if assembly.blocks character then assembly.push character
    else { assembly with base? := some whole }

/-- A text in canonical form. -/
def canonical (text : List Char) : List Char :=
  let sorted := (sortedReversed (text.flatMap decomposed)).reverse
  (sorted.foldl Assembly.add {}).reversed.reverse

end Seeding.Text
