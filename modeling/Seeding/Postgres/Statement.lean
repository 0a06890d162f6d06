/-
**INSERT statements.**

A record becomes one statement: the table and the columns as quoted identifiers, a numbered
placeholder for each column, and the values as parameters in the same order. A record without
columns asks for the defaults. An identifier stands between double quotes, and a double quote in it
is written twice, so no name can end its own quoting.
-/
import Seeding.Record
import Seeding.Table

namespace Seeding.Postgres

/-- A value sent with a statement, in one of two types; none is NULL of that type. -/
inductive Parameter where
  | text (value : Option String)
  | integer (value : Option Int64)
  deriving DecidableEq, Repr

/-- The text of a statement and its parameters. -/
structure Statement where
  text : String
  parameters : List Parameter := []
  deriving DecidableEq, Repr

/-- An identifier between double quotes. -/
def quoteIdentifier (name : String) : List Char :=
  '"' :: (name.toList.flatMap fun character => if character = '"' then ['"', '"'] else [character])
    ++ ['"']

/-- Texts with a comma and a space between them. -/
def commaSeparated : List (List Char) → List Char := List.intercalate [',', ' ']

/-- The placeholder for the parameter with a number. -/
def placeholder (number : Nat) : List Char := '$' :: (toString number).toList

/-- The text of an INSERT statement for columns of a table. -/
def insertText (table : String) (columns : List String) : List Char :=
  "INSERT INTO ".toList ++ quoteIdentifier table ++
    if columns = [] then " DEFAULT VALUES".toList
    else " (".toList ++ commaSeparated (columns.map quoteIdentifier) ++ ") VALUES (".toList ++
      commaSeparated ((List.range columns.length).map fun place => placeholder (place + 1)) ++
      ")".toList

/-- Whether NULL in a column of that name is sent as an integer. -/
def isIntegerColumn (table : Table) (name : String) : Bool :=
  match (table.column? name).map Column.type with
  | some .bigint => true
  | some .bigserial => true
  | _ => false

/-- The parameter for a field. NULL takes the type of its column, and that of texts where the table
has no such column. -/
def parameter (table : Table) (name : String) : Value → Parameter
  | .text content => .text (some content)
  | .enumerant content => .text (some content)
  | .integer number => .integer (some number)
  | .null => if isIntegerColumn table name then .integer none else .text none

/-- The statement that inserts a record into a table. -/
def insertStatement (table : Table) (record : Record) : Statement where
  text := String.ofList (insertText table.name record.columns)
  parameters := record.fields.map fun field => parameter table field.1 field.2

end Seeding.Postgres
