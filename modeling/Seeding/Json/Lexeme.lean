/-
**Strings and numbers of JSON texts.**

`text` reads a string after its opening quote and resolves its escapes; a pair of surrogate escapes
stands for one character and a surrogate on its own is malformed. `number` reads a number and gives
it when it is a whole number of 64 bits without sign, fraction and exponent; any other number is
read to its end, and one too large for a binary64 number is malformed. `passText` and `passNumber`
read the same forms for a value that is not needed: they do not look at what an escape stands for
nor at the size of a number, and for them a number that lacks a digit is malformed even at the end
of the text.
-/
import Seeding.Binary64
import Seeding.Json.Fault
import Seeding.Text.Digits

namespace Seeding.Json.Reader

/-! ### Strings -/

/-- The code unit written by the four hexadecimal digits in front. A text with fewer than four
bytes left has ended. -/
def codeUnit (characters : List Char) : Except Fault Nat :=
  if (String.ofList characters).utf8ByteSize < 4 then .error .ended
  else match (characters.take 4).mapM Text.hexValue? with
    | some [first, second, third, fourth] =>
      .ok (((first * 16 + second) * 16 + third) * 16 + fourth)
    | _ => .error .malformed

/-- Whether a code unit opens a surrogate pair. -/
def isHigh (unit : Nat) : Bool := 0xD800 ≤ unit && unit ≤ 0xDBFF

/-- Whether a code unit closes a surrogate pair. -/
def isLow (unit : Nat) : Bool := 0xDC00 ≤ unit && unit ≤ 0xDFFF

/-- The character of a surrogate pair. -/
def ofPair (high low : Nat) : Char :=
  Char.ofNat (0x10000 + (high - 0xD800) * 0x400 + (low - 0xDC00))

/-- The character that the letter after a backslash stands for. -/
def letterEscape? (letter : Char) : Option Char :=
  if letter = '"' ∨ letter = '\\' ∨ letter = '/' then some letter
  else if letter = 'b' then some '\x08'
  else if letter = 'f' then some '\x0c'
  else if letter = 'n' then some '\n'
  else if letter = 'r' then some '\r'
  else if letter = 't' then some '\t'
  else none

/-- The second escape of a surrogate pair. -/
def lowEscape : List Char → Except Fault Nat
  | [] => .error .ended
  | ['\\'] => .error .ended
  | '\\' :: 'u' :: rest => do
    let unit ← codeUnit rest
    if isLow unit then pure unit else throw .malformed
  | _ => .error .malformed

/-- The character that an escape stands for, and how many characters it takes after its
backslash. -/
def escaped : List Char → Except Fault (Char × Nat)
  | [] => .error .ended
  | 'u' :: rest => do
    let unit ← codeUnit rest
    if isLow unit then throw .malformed
    else if isHigh unit then
      let low ← lowEscape (rest.drop 4)
      pure (ofPair unit low, 11)
    else pure (Char.ofNat unit, 5)
  | letter :: _ =>
    match letterEscape? letter with
    | some character => .ok (character, 1)
    | none => .error .malformed

/-- How many characters an escape takes after its backslash when nobody asks what it stands for. -/
def passedEscape : List Char → Except Fault Nat
  | [] => .error .ended
  | 'u' :: rest => (codeUnit rest).map fun _ => 5
  | letter :: _ => if (letterEscape? letter).isSome then .ok 1 else .error .malformed

/-- The characters of a string up to its closing quote, and what follows it. -/
def content (characters : List Char) : Except Fault (List Char × List Char) :=
  match characters with
  | [] => .error .ended
  | '"' :: rest => .ok ([], rest)
  | '\\' :: rest => do
    let (character, width) ← escaped rest
    let (others, following) ← content (rest.drop width)
    pure (character :: others, following)
  | character :: rest =>
    if character.toNat < 0x20 then .error .malformed
    else do
      let (others, following) ← content rest
      pure (character :: others, following)
termination_by characters.length
decreasing_by all_goals simp only [List.length_drop, List.length_cons]; omega

/-- What follows a string whose content is not needed. -/
def afterContent (characters : List Char) : Except Fault (List Char) :=
  match characters with
  | [] => .error .ended
  | '"' :: rest => .ok rest
  | '\\' :: rest => do
    let width ← passedEscape rest
    afterContent (rest.drop width)
  | character :: rest => if character.toNat < 0x20 then .error .malformed else afterContent rest
termination_by characters.length
decreasing_by all_goals simp only [List.length_drop, List.length_cons]; omega

/-- Reads a string after its opening quote. -/
def text : Reader String := fun characters => do
  let (found, rest) ← content characters
  pure (String.ofList found, rest)

/-- Passes over a string after its opening quote. -/
def passText : Reader Unit := fun characters => do
  let rest ← afterContent characters
  pure ((), rest)

/-! ### Numbers -/

/-- Takes the digits in front. -/
def digits : Reader (List Char) := fun characters =>
  .ok (characters.takeWhile Char.isDigit, characters.dropWhile Char.isDigit)

/-- Takes a character of the given ones if it is next. -/
def option (choices : List Char) : Reader (Option Char) := fun characters =>
  match characters with
  | [] => .ok (none, [])
  | character :: rest =>
    if choices.contains character then .ok (some character, rest) else .ok (none, characters)

/-- Takes one digit or more. Where there is none, `missing` is the fault at the end of the text. -/
def someDigits (missing : Fault) : Reader (List Char) := do
  let found ← digits
  if found = [] then
    throw (if (← get) = [] then missing else .malformed)
  else pure found

/-- The whole part of a number: a single zero or digits that do not start with one. -/
def wholeDigits (missing : Fault) : Reader (List Char) := do
  let found ← someDigits missing
  if 1 < found.length ∧ found.head? = some '0' then throw .malformed else pure found

/-- The parts of a number as written: the digits before and after the point, and the exponent. -/
structure Numeral where
  whole : List Char
  fraction : Option (List Char)
  exponent : Option Int

/-- The number that a list of digits denotes. -/
def denoted (found : List Char) : Nat := Nat.ofDigitChars 10 found 0

/-- Reads a number after its optional minus sign. -/
def numeral (missing : Fault) : Reader Numeral := do
  let whole ← wholeDigits missing
  let fraction ← match ← option ['.'] with
    | none => pure none
    | some _ => some <$> someDigits missing
  let exponent ← match ← option ['e', 'E'] with
    | none => pure none
    | some _ => do
      let sign ← option ['+', '-']
      let found ← someDigits missing
      pure (some (if sign = some '-' then -(denoted found : Int) else denoted found))
  pure { whole, fraction, exponent }

/-- Appends digits to a significand as long as it stays below `2 ^ 64`; gives the significand and
the digits that did not fit. -/
def accumulate (significand : Nat) : List Char → Nat × List Char
  | [] => (significand, [])
  | digit :: rest =>
    let next := 10 * significand + (digit.toNat - '0'.toNat)
    if next < UInt64.size then accumulate next rest else (significand, digit :: rest)

/-- A number as a significand below `2 ^ 64` and a power of ten; digits that do not fit the
significand only count for their place. -/
def Numeral.scientific (numeral : Numeral) : Nat × Int :=
  let (whole, dropped) := accumulate 0 numeral.whole
  let fraction := numeral.fraction.getD []
  let (significand, ignored) := accumulate whole fraction
  (significand,
    (dropped.length : Int) - (fraction.length - ignored.length : Int) + numeral.exponent.getD 0)

/-- Whether a significand times a power of ten is a finite binary64 number. -/
def isFinite (significand : Nat) (power : Int) : Bool :=
  significand = 0 || power < 0 ||
    (power ≤ 308 && Binary64.fitsProduct significand (Nat.pow 10 power.toNat))

/-- A number as written, if it is whole and below `2 ^ 64`; none for any other finite number. -/
def Numeral.natural? (numeral : Numeral) : Except Fault (Option Nat) :=
  if numeral.fraction.isNone ∧ numeral.exponent.isNone ∧ denoted numeral.whole < UInt64.size then
    .ok (some (denoted numeral.whole))
  else
    let (significand, power) := numeral.scientific
    if isFinite significand power then .ok none else .error .malformed

/-- Reads a number. -/
def number : Reader (Option Nat) := do
  match ← option ['-'] with
  | none => (← numeral .ended).natural?
  | some _ => do
    let _ ← (← numeral .ended).natural?
    pure none

/-- Passes over a number. -/
def passNumber : Reader Unit := do
  let _ ← option ['-']
  let _ ← numeral .malformed

end Seeding.Json.Reader
