/-
**Internet addresses.**

`ipv4?` reads an IPv4 address in the wide form that URLs allow: one to four numbers between dots,
each decimal, octal after a `0` or hexadecimal after `0x`; the last number fills the bytes that are
left. `isIpv4` and `isIpv6` test the plain forms: four decimal numbers without leading zeros, and up
to eight groups of hexadecimal digits between colons, of which a double colon leaves some out and a
plain IPv4 address at the end stands for two.
-/
import Seeding.Text.Digits
import Seeding.Text.Parts

namespace Seeding.Url

/-! ### The wide form of IPv4 -/

/-- A number of the wide form. -/
def wideNumber? : List Char → Option Nat
  | [] => none
  | '0' :: 'x' :: digits => Text.ofDigits? 16 digits
  | '0' :: 'X' :: digits => Text.ofDigits? 16 digits
  | '0' :: digit :: digits => Text.ofDigits? 8 (digit :: digits)
  | digits => Text.ofDigits? 10 digits

/-- The labels of a domain; a dot at the end adds none. -/
def labels (domain : List Char) : List (List Char) :=
  let found := Text.parts (· = '.') domain
  if found.getLast? = some [] then found.dropLast else found

/-- Whether a domain ends in a number, so that it can only be an IPv4 address. -/
def endsInNumber (domain : List Char) : Bool :=
  match (labels domain).getLast? with
  | none => false
  | some last => last ≠ [] && (last.all Char.isDigit || (wideNumber? last).isSome)

/-- The IPv4 address of a wide form, as one number. -/
def ipv4? (domain : List Char) : Option Nat := do
  let numbers ← (labels domain).mapM wideNumber?
  let last ← numbers.getLast?
  let bytes := numbers.dropLast
  if bytes.length < 4 ∧ bytes.all (· < 256) ∧ last < Nat.pow 256 (4 - bytes.length) then
    let high := bytes.foldl (fun number byte => number * 256 + byte) 0
    some (high * Nat.pow 256 (4 - bytes.length) + last)
  else none

/-- The plain form of an IPv4 address. -/
def dotted (address : Nat) : String :=
  ".".intercalate ([3, 2, 1, 0].map fun place => toString (address / Nat.pow 256 place % 256))

/-! ### The plain forms -/

/-- Whether digits are a decimal number below 256 without a leading zero. -/
def isOctet (digits : List Char) : Bool :=
  match Text.ofDigits? 10 digits with
  | none => false
  | some number =>
    number < 256 && digits ≠ [] && (digits.length = 1 || digits.head? ≠ some '0')

/-- Whether a text is an IPv4 address in the plain form. -/
def isIpv4 (text : List Char) : Bool :=
  let octets := Text.parts (· = '.') text
  octets.length = 4 && octets.all isOctet

/-- Whether digits are a group of an IPv6 address. -/
def isGroup (digits : List Char) : Bool :=
  1 ≤ digits.length && digits.length ≤ 4 && digits.all fun digit => (Text.hexValue? digit).isSome

/-- How many groups the parts of an IPv6 address count; `mixed` says whether the last part may be
an IPv4 address. -/
def groups? (mixed : Bool) : List (List Char) → Option Nat
  | [] => some 0
  | [last] => if isGroup last then some 1 else if mixed && isIpv4 last then some 2 else none
  | first :: second :: rest =>
    if isGroup first then (groups? mixed (second :: rest)).map (· + 1) else none

/-- The parts between colons; an empty text has none. -/
def colonParts (text : List Char) : List (List Char) :=
  if text = [] then [] else Text.parts (· = ':') text

/-- What stands before and after the first double colon. -/
def cutElision? : List Char → Option (List Char × List Char)
  | ':' :: ':' :: rest => some ([], rest)
  | character :: rest => (cutElision? rest).map fun cut => (character :: cut.1, cut.2)
  | [] => none

/-- Whether a text is an IPv6 address. -/
def isIpv6 (text : List Char) : Bool :=
  match cutElision? text with
  | none => groups? true (colonParts text) = some 8
  | some (before, after) =>
    match groups? false (colonParts before), groups? true (colonParts after) with
    | some first, some second => first + second < 8
    | _, _ => false

/-- Whether a text is an internet address in a plain form. -/
def isIpAddress (text : List Char) : Bool := isIpv4 text || isIpv6 text

end Seeding.Url
