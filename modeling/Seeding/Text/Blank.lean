/-
**Blank characters.**

A character is blank when it has the Unicode property `White_Space`. `trim` takes the blanks off
both ends of a text and leaves those inside it alone. The zero width space and the byte order mark
do not have the property, so they stay.
-/

namespace Seeding.Text

/-- The code points with the property `White_Space`, as closed ranges. -/
def blankRanges : List (Nat × Nat) :=
  [(0x09, 0x0D), (0x20, 0x20), (0x85, 0x85), (0xA0, 0xA0), (0x1680, 0x1680), (0x2000, 0x200A),
    (0x2028, 0x2029), (0x202F, 0x202F), (0x205F, 0x205F), (0x3000, 0x3000)]

/-- Whether a character is blank. -/
def isBlank (character : Char) : Bool :=
  blankRanges.any fun range => range.1 ≤ character.toNat && character.toNat ≤ range.2

/-- A text without the blanks at its two ends. -/
def trim (characters : List Char) : List Char :=
  ((characters.dropWhile isBlank).reverse.dropWhile isBlank).reverse

/-- A text trimmed and with its letters `A` to `Z` made small, the form in which words are
compared. -/
def folded (text : String) : String :=
  String.ofList ((trim text.toList).map Char.toLower)

end Seeding.Text
