/-
**Tables and their columns.**

A table names its typed columns. Two columns of one table may share a name; a name then means the
first of them. A column carries the name of the table it was added to, and every column of a table
carries that table's name (`Table.owned`).
-/

namespace Seeding

/-- The type of a column. -/
inductive ColumnType where
  /-- Text of at most `limit` characters. -/
  | varchar (limit : Nat)
  /-- Text of any length. -/
  | text
  /-- One of the texts of `domain`, of at most `limit` characters. -/
  | enumeration (limit : Nat) (domain : List String)
  /-- A 64-bit integer. -/
  | bigint
  /-- A 64-bit integer that the database numbers itself. -/
  | bigserial
  deriving DecidableEq, Repr

namespace ColumnType

/-- The name of a type. -/
def name : ColumnType → String
  | .varchar _ => "varchar"
  | .text => "text"
  | .enumeration _ _ => "enum"
  | .bigint => "bigint"
  | .bigserial => "bigserial"

/-- The largest number of characters that can be counted. -/
def unlimited : Nat := UInt64.size - 1

/-- The largest number of characters that a type declares to hold, if it holds characters. -/
def limit? : ColumnType → Option Nat
  | .varchar limit => some limit
  | .text => some unlimited
  | .enumeration limit _ => some limit
  | .bigint => none
  | .bigserial => none

end ColumnType

/-- A column; its table is the empty name until it is added to one. -/
structure Column where
  table : String := ""
  name : String
  type : ColumnType
  nullable : Bool := false
  hasDefault : Bool := false
  deriving DecidableEq, Repr

namespace Column

/-- A column that must hold a value. Only a numbered column has a default from the start. -/
def declare (name : String) (type : ColumnType) : Column :=
  { name, type, hasDefault := type = .bigserial }

/-- The column, now allowed to hold NULL. -/
def allowingNull (column : Column) : Column := { column with nullable := true }

/-- The column, now with a default. -/
def defaulting (column : Column) : Column := { column with hasDefault := true }

/-- Whether a record has to set the column. -/
def isRequired (column : Column) : Bool := !column.nullable && !column.hasDefault

end Column

/-- A named list of columns. -/
structure Table where
  name : String
  columns : List Column
  owned : ∀ column ∈ columns, column.table = name
  deriving DecidableEq

namespace Table

/-- The table without columns. -/
def empty (name : String) : Table where
  name
  columns := []
  owned := by simp

/-- The table with one more column at its end. -/
def addColumn (table : Table) (column : Column) : Table where
  name := table.name
  columns := table.columns ++ [{ column with table := table.name }]
  owned := by
    intro member inside
    rcases List.mem_append.mp inside with old | new
    · exact table.owned member old
    · rw [List.mem_singleton.mp new]

/-- The table of the given name and columns. -/
def ofColumns (name : String) (columns : List Column) : Table :=
  columns.foldl addColumn (empty name)

/-- The first column of a name. -/
def column? (table : Table) (name : String) : Option Column :=
  table.columns.find? fun column => column.name == name

/-- The columns that a record has to set, in order. -/
def required (table : Table) : List Column := table.columns.filter Column.isRequired

end Table

end Seeding
