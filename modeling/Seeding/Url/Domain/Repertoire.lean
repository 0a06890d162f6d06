/-
**The characters of domains.**

Unicode leaves some characters out of a domain and refuses others; a URL refuses some more. A
character without a printed form is refused, unless it is left out or admitted.
-/
import Seeding.Text.Unprintable

namespace Seeding.Url

/-- The code points that are left out of a domain. -/
def omittedRanges : Array (Nat × Nat) :=
  #[(0xAD, 0xAD), (0x34F, 0x34F), (0x115F, 0x1160), (0x17B4, 0x17B5), (0x180B, 0x180F),
    (0x200B, 0x200B), (0x2060, 0x2064), (0x206A, 0x206F), (0x3164, 0x3164), (0xFE00, 0xFE0F),
    (0xFEFF, 0xFEFF), (0xFFA0, 0xFFA0), (0x1BCA0, 0x1BCA3), (0x1D173, 0x1D17A), (0xE0100, 0xE01EF)]

/-- The code points with a printed form that no domain may have: signs that would become a space or
several signs of which one has a meaning in a URL, parts of characters, and replacements of
characters. -/
def refusedRanges : Array (Nat × Nat) :=
  #[(0xA8, 0xA8), (0xAF, 0xAF), (0xB4, 0xB4), (0xB8, 0xB8), (0x2D8, 0x2DD), (0x37A, 0x37A),
    (0x384, 0x385), (0x1FBD, 0x1FBD), (0x1FBF, 0x1FC1), (0x1FCD, 0x1FCF), (0x1FDD, 0x1FDF),
    (0x1FED, 0x1FEE), (0x1FFD, 0x1FFE), (0x2017, 0x2017), (0x2024, 0x2026), (0x203E, 0x203E),
    (0x2047, 0x2049), (0x2100, 0x2101), (0x2105, 0x2106), (0x2488, 0x249B), (0x2A74, 0x2A74),
    (0x2FF0, 0x2FFF), (0x309B, 0x309C), (0x31EF, 0x31EF), (0x33C2, 0x33C2), (0x33C7, 0x33C7),
    (0x33D8, 0x33D8), (0xFC5E, 0xFC63), (0xFDFA, 0xFDFB), (0xFE12, 0xFE12), (0xFE19, 0xFE19),
    (0xFE30, 0xFE30), (0xFE49, 0xFE4C), (0xFE52, 0xFE52), (0xFE70, 0xFE70), (0xFE72, 0xFE72),
    (0xFE74, 0xFE74), (0xFE76, 0xFE76), (0xFE78, 0xFE78), (0xFE7A, 0xFE7A), (0xFE7C, 0xFE7C),
    (0xFE7E, 0xFE7E), (0xFFE3, 0xFFE3), (0xFFFC, 0xFFFD), (0x1F100, 0x1F100)]

/-- The code points that a domain may have although messages have no printed form for them: the
joiners and letters and signs that came late into Unicode. -/
def admittedRanges : Array (Nat × Nat) :=
  #[(0x558, 0x558), (0x58B, 0x58B), (0x200C, 0x200D), (0x20C2, 0x20C3), (0x3D000, 0x3FC3F)]

/-- Whether a character is left out of a domain. -/
def isOmitted (character : Char) : Bool := Text.liesIn omittedRanges character

/-- Whether an ASCII character may not stand in a domain: the controls, the space and the signs with
a meaning in a URL. -/
def isReserved (character : Char) : Bool :=
  character.toNat ≤ 0x20 || character.toNat = 0x7F ||
    ['%', '#', '/', ':', '<', '>', '?', '@', '[', '\\', ']', '^', '|'].contains character

/-- Whether no domain may have a character. -/
def isRefused (character : Char) : Bool :=
  isReserved character || Text.liesIn refusedRanges character ||
    (Text.isUnprintable character && !isOmitted character &&
      !Text.liesIn admittedRanges character)

end Seeding.Url
