/-
**Domain names.**

A domain is brought into one form: some characters are left out, each other character becomes what
Unicode says, and the text is put into canonical form. Dots divide it into labels. A label after
`xn--` stands in Punycode for a label that has other than ASCII characters and is in that form. No
label may have a refused character or start with a mark, joiners have to be in their place, and if
something in the domain is written from right to left, each label keeps to one direction.
-/
import Seeding.Text.Canonical
import Seeding.Text.Parts
import Seeding.Text.Utf8
import Seeding.Url.Domain.Direction
import Seeding.Url.Domain.Folding
import Seeding.Url.Domain.Joining
import Seeding.Url.Domain.Repertoire
import Seeding.Url.Fault
import Seeding.Url.Punycode

namespace Seeding.Url

/-- A text in the form of a domain. -/
def domainForm (text : List Char) : List Char :=
  Text.canonical ((text.filter (!isOmitted ·)).flatMap folded)

/-- The longest text in Punycode that is read. -/
def encodedLimit : Nat := 2000

/-- The longest label with other than ASCII characters. -/
def labelLimit : Nat := 1000

/-- What a text in Punycode stands for, if that is a label in the form of a domain. -/
def encodedLabel? (text : List Char) : Option (List Char) :=
  if text.length ≤ encodedLimit ∧ text.getLast?.any (· ≠ '-') then
    (Punycode.decode? text).filter fun label => label = domainForm label
  else none

/-- The label that is meant by a written one. -/
def meantLabel? (written : List Char) : Option (List Char) :=
  if ['x', 'n', '-', '-'].isPrefixOf written then encodedLabel? (written.drop 4)
  else if written.length ≤ labelLimit ∨ written.all fun character => character.toNat < 0x80 then
    some written
  else none

/-- Whether a label may stand in a domain, directions apart. -/
def isLabel (label : List Char) : Bool :=
  !label.any isRefused && !label.head?.any Text.isMark && joinsWell [] label

/-- The domain that bytes stand for, in its form. -/
def domain (bytes : List UInt8) : Except Fault (List Char) :=
  match Text.ofUtf8 bytes with
  | .error _ => .error .invalidDomain
  | .ok characters =>
    let name := domainForm characters
    match (Text.parts (· = '.') name).mapM meantLabel? with
    | none => .error .invalidDomain
    | some labels =>
      if labels.all isLabel && (!labels.any (·.any turns) || labels.all keepsDirection) then
        .ok name
      else .error .invalidDomain

end Seeding.Url
