/-
**What can be wrong with a declaration.**

A declaration says which generators fill which columns of a table and how many rows it gets. Its
errors are found while it is made, before any row is generated; a plan that is run without its
generators is found before the first row is stored (`Unready`).
-/
import Seeding.Table

namespace Seeding

/-- The kinds of generators. -/
inductive GeneratorKind where
  | string
  | enumeration
  | integer
  | name
  | optional
  deriving DecidableEq, Repr

/-- The word for a kind of generator. -/
def GeneratorKind.label : GeneratorKind → String
  | .string => "string"
  | .enumeration => "enum"
  | .integer => "int_range"
  | .name => "name"
  | .optional => "optional"

/-- Why a generator cannot fill a column. -/
inductive Incompatibility where
  /-- Strings of up to `most` characters do not fit the column's limit. -/
  | stringsTooLong (most limit : Nat)
  /-- Names of up to `most` characters do not fit the column's limit. -/
  | namesTooLong (most limit : Nat)
  | notFreeText
  | notEnumeration
  | notIntegers
  | notNullable
  /-- A choice does not belong to the column's domain. -/
  | outsideDomain (choice : String)
  /-- A choice has more characters than the column's limit. -/
  | choiceTooLong (choice : String) (limit : Nat)
  deriving DecidableEq, Repr

/-- The text of the reason. -/
def Incompatibility.message : Incompatibility → String
  | .stringsTooLong most limit => s!"strings up to {most} chars exceed limit {limit}"
  | .namesTooLong most limit => s!"names up to {most} chars exceed limit {limit}"
  | .notFreeText => "column does not hold free text"
  | .notEnumeration => "column is not an enumeration"
  | .notIntegers => "column does not hold integers"
  | .notNullable => "column is not nullable"
  | .outsideDomain choice => s!"{choice} is not in the column domain"
  | .choiceTooLong choice limit => s!"{choice} is longer than {limit} chars"

/-- Why a declaration is refused. -/
inductive DeclarationError where
  | invertedLengths (least most : UInt64)
  | invertedIntegers (least most : Int64)
  | percentAboveHundred (percent : Nat)
  | noChoices
  | noRows (table : String)
  | generatorsAlreadySet (table : String)
  /-- The column of that table was bound in a plan for table `expected`. -/
  | foreignColumn (expected table column : String)
  | boundTwice (table column : String)
  | requiredUnbound (table column : String)
  | unknownColumn (table column : String)
  | incompatible (generator : GeneratorKind) (column : Column) (reason : Incompatibility)
  deriving DecidableEq, Repr

/-- The text of a declaration error. -/
def DeclarationError.message : DeclarationError → String
  | .invertedLengths least most =>
    s!"Invalid length range: min {least} is greater than max {most}"
  | .invertedIntegers least most =>
    s!"Invalid integer range: min {least} is greater than max {most}"
  | .percentAboveHundred percent => s!"Null percentage {percent} is above 100"
  | .noChoices => "Enumerant generator needs at least one value"
  | .noRows table => s!"Row count for table {table} must be positive"
  | .generatorsAlreadySet table => s!"Generators for table {table} were already set"
  | .foreignColumn expected table column =>
    s!"Column {table}.{column} does not belong to table {expected}"
  | .boundTwice table column => s!"Column {table}.{column} is bound more than once"
  | .requiredUnbound table column => s!"Required column {table}.{column} has no generator"
  | .unknownColumn table column => s!"Unknown column {table}.{column}"
  | .incompatible generator column reason =>
    s!"Generator {generator.label} cannot fill {column.type.name} column " ++
      s!"{column.table}.{column.name}: {reason.message}"

/-- A plan for this table has no generators yet. -/
structure Unready where
  table : String
  deriving DecidableEq, Repr

/-- The text of the error. -/
def Unready.message (unready : Unready) : String :=
  s!"Generators for table {unready.table} were never set"

/-- The first column of a name, or the error that there is none. -/
def Table.column (table : Table) (name : String) : Except DeclarationError Column :=
  match table.column? name with
  | some column => .ok column
  | none => .error (.unknownColumn table.name name)

end Seeding
