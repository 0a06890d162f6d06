/-
**Whether a generator can fill a column.**

The check is made when a generator is declared for a column, before anything is drawn: strings and
names must fit the column's limit at their longest, every choice must belong to the domain and fit
the limit, integers need an integer column that the database does not number itself, and a share of
NULL needs a column that may hold it.
-/
import Seeding.Generator.Basic

namespace Seeding.Generator

/-- The first choice that a column cannot hold, with the reason. -/
def misfit? (limit : Nat) (domain : List String) : List String → Option Incompatibility
  | [] => none
  | choice :: rest =>
    if choice ∉ domain then some (.outsideDomain choice)
    else if limit < choice.length then some (.choiceTooLong choice limit)
    else misfit? limit domain rest

/-- Why a generator that draws values on its own cannot fill a column; NULL is not looked at. -/
def obstacle? : Generator → ColumnType → Option Incompatibility
  | .string lengths, .varchar limit =>
    if limit < lengths.most.toNat then some (.stringsTooLong lengths.most.toNat limit) else none
  | .string _, .text => none
  | .string _, _ => some .notFreeText
  | .enumeration choices, .enumeration limit domain => misfit? limit domain choices.names
  | .enumeration _, _ => some .notEnumeration
  | .integer _, .bigint => none
  | .integer _, _ => some .notIntegers
  | .name most, .varchar limit =>
    if limit < most then some (.namesTooLong most limit) else none
  | .name _, .text => none
  | .name _, _ => some .notFreeText
  | .optional _ inner, type => inner.obstacle? type

/-- Whether a generator can fill a column. The outermost layer that cannot is reported. -/
def check : Generator → Column → Except DeclarationError Unit
  | .optional share inner, column =>
    if 0 < share.val ∧ !column.nullable then
      .error (.incompatible .optional column .notNullable)
    else inner.check column
  | generator, column =>
    match generator.obstacle? column.type with
    | some reason => .error (.incompatible generator.kind column reason)
    | none => .ok ()

end Seeding.Generator
