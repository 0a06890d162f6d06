/-
**The rules of columns.**

The store in memory takes a record only if a database would: every field names a column and its
value fits the first column of that name, and every required column is set. The fields are checked
in the record's order, then the required columns in the table's.
-/
import Seeding.Backend.Error
import Seeding.Record
import Seeding.Table

namespace Seeding

namespace Column

/-- The error that a value breaks a rule of the column. -/
def violated (column : Column) (violation : Violation) : StoreError :=
  .constraintViolation column.table column.name violation

/-- The error that a value has not the kind that the column expects. -/
def mismatched (column : Column) (expected : String) (value : Value) : StoreError :=
  .typeMismatch column.table column.name expected value.kindName

/-- Whether a column can hold a value. -/
def verifyValue (column : Column) (value : Value) : Except StoreError Unit :=
  match value, column.type with
  | .null, _ => if column.nullable then .ok () else .error (column.violated .nullValue)
  | .text content, .varchar limit =>
    if limit < content.length then .error (column.violated (.tooLong limit)) else .ok ()
  | .enumerant name, .varchar limit =>
    if limit < name.length then .error (column.violated (.tooLong limit)) else .ok ()
  | .integer _, .varchar _ => .error (column.mismatched "text" value)
  | .text _, .text => .ok ()
  | .enumerant _, .text => .ok ()
  | .integer _, .text => .error (column.mismatched "text" value)
  | .enumerant name, .enumeration limit domain =>
    if limit < name.length then .error (column.violated (.tooLong limit))
    else if name ∉ domain then .error (column.violated (.notEnumerant name))
    else .ok ()
  | _, .enumeration _ _ => .error (column.mismatched "enum" value)
  | .integer _, .bigint => .ok ()
  | .integer _, .bigserial => .ok ()
  | _, .bigint => .error (column.mismatched "int" value)
  | _, .bigserial => .error (column.mismatched "int" value)

end Column

namespace Table

/-- Whether a field names a column of the table that can hold its value. -/
def verifyField (table : Table) (name : String) (value : Value) : Except StoreError Unit :=
  match table.column? name with
  | none => .error (.constraintViolation table.name name .noSuchColumn)
  | some column => column.verifyValue value

/-- Whether every field of a list can be stored; the first that cannot is reported. -/
def verifyFields (table : Table) : List (String × Value) → Except StoreError Unit
  | [] => .ok ()
  | (name, value) :: rest =>
    match table.verifyField name value with
    | .error error => .error error
    | .ok () => table.verifyFields rest

/-- The first required column that a record does not set. -/
def missing? (table : Table) (record : Record) : Option Column :=
  table.required.find? fun column => (record.get? column.name).isNone

/-- Whether a record can be stored. -/
def verify (table : Table) (record : Record) : Except StoreError Unit :=
  match table.verifyFields record.fields with
  | .error error => .error error
  | .ok () =>
    match table.missing? record with
    | some column => .error (.constraintViolation table.name column.name .nullValue)
    | none => .ok ()

end Table

end Seeding
