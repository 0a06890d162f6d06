/-
**Generators.**

A generator is a rule that draws the values of one column. Its parameters are sound by
construction: a range does not run backwards, there is a choice to make, a percentage is at most a
hundred. The functions that declare a generator refuse parameters that are not.
-/
import Seeding.DeclarationError
import Seeding.Random.Share

namespace Seeding

/-- The lengths of random strings, both ends included. -/
structure LengthRange where
  least : UInt64
  most : UInt64
  ordered : least ≤ most
  deriving DecidableEq, Repr

/-- The values of random integers, both ends included. -/
structure IntegerRange where
  least : Int64
  most : Int64
  ordered : least ≤ most
  deriving DecidableEq, Repr

/-- The texts that a choice is made from. -/
structure Choices where
  names : List String
  nonempty : names ≠ []
  deriving DecidableEq, Repr

/-- A rule that draws the values of a column. -/
inductive Generator where
  /-- Strings of letters, digits and underscores. -/
  | string (lengths : LengthRange)
  /-- One of the choices. -/
  | enumeration (choices : Choices)
  /-- An integer of the range. -/
  | integer (range : IntegerRange)
  /-- A first name, cut to `limit` characters. -/
  | name (limit : Nat)
  /-- NULL for a share of the rows, else a value of the inner generator. -/
  | optional (share : Percent) (inner : Generator)
  deriving DecidableEq, Repr

namespace Generator

/-- Strings of a length between two bounds. -/
def ofLengths (least most : UInt64) : Except DeclarationError Generator :=
  if ordered : least ≤ most then .ok (.string ⟨least, most, ordered⟩)
  else .error (.invertedLengths least most)

/-- Strings of one length. -/
def ofLength (length : UInt64) : Generator := .string ⟨length, length, UInt64.le_refl length⟩

/-- A choice from a list of texts. -/
def ofChoices (names : List String) : Except DeclarationError Generator :=
  if nonempty : names ≠ [] then .ok (.enumeration ⟨names, nonempty⟩) else .error .noChoices

/-- Integers between two bounds. -/
def ofIntegers (least most : Int64) : Except DeclarationError Generator :=
  if ordered : least ≤ most then .ok (.integer ⟨least, most, ordered⟩)
  else .error (.invertedIntegers least most)

/-- First names of at most the usual number of characters. -/
def firstName : Generator := .name 255

/-- The generator with NULL for a percentage of the rows. -/
def orNull (inner : Generator) (percent : Nat) : Except DeclarationError Generator :=
  if fits : percent < 101 then .ok (.optional ⟨percent, fits⟩ inner)
  else .error (.percentAboveHundred percent)

/-- The kind of a generator. -/
def kind : Generator → GeneratorKind
  | .string _ => .string
  | .enumeration _ => .enumeration
  | .integer _ => .integer
  | .name _ => .name
  | .optional _ _ => .optional

end Generator

end Seeding
