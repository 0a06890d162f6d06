/-
**Which records can be stored.**

`verify_eq_ok_iff`: a record can be stored if every field names a column that can hold its value and
every required column is set. The order in which the checks are made matters only to refusals, which
name an error about the record (`ofRecord_of_verify`).
-/
import Seeding.Proofs.Record
import Seeding.Store.Rules

namespace Seeding

/-! ### Refusals -/

/-- The errors about a record: a value breaks a rule of its column or has another kind. -/
inductive StoreError.OfRecord : StoreError → Prop where
  | constraintViolation (table column : String) (violation : Violation) :
    OfRecord (.constraintViolation table column violation)
  | typeMismatch (table column expected actual : String) :
    OfRecord (.typeMismatch table column expected actual)

theorem Column.ofRecord_of_verifyValue {column : Column} {value : Value} {error : StoreError}
    (refused : column.verifyValue value = .error error) : error.OfRecord := by
  unfold verifyValue at refused
  -- each rule accepts the value or names one of the two errors
  repeat' split at refused
  all_goals cases refused
  all_goals constructor

namespace Table

variable {table : Table} {error : StoreError}

theorem ofRecord_of_verifyField {name : String} {value : Value}
    (refused : table.verifyField name value = .error error) : error.OfRecord := by
  unfold verifyField at refused
  cases column? : table.column? name with
  | none =>
    rw [column?] at refused
    cases refused
    exact .constraintViolation table.name name .noSuchColumn
  | some column =>
    rw [column?] at refused
    exact Column.ofRecord_of_verifyValue refused

theorem ofRecord_of_verifyFields {fields : List (String × Value)}
    (refused : table.verifyFields fields = .error error) : error.OfRecord := by
  induction fields with
  | nil => cases refused
  | cons field rest ih =>
    unfold verifyFields at refused
    cases checked : table.verifyField field.1 field.2 with
    | error first =>
      rw [checked] at refused
      cases refused
      exact ofRecord_of_verifyField checked
    | ok _ =>
      rw [checked] at refused
      exact ih refused

/-- **A record that cannot be stored is refused with an error about it.** -/
theorem ofRecord_of_verify {record : Record} (refused : table.verify record = .error error) :
    error.OfRecord := by
  unfold verify at refused
  cases checked : table.verifyFields record.fields with
  | error first =>
    rw [checked] at refused
    cases refused
    exact ofRecord_of_verifyFields checked
  | ok _ =>
    rw [checked] at refused
    cases missing : table.missing? record with
    | none =>
      rw [missing] at refused
      cases refused
    | some column =>
      rw [missing] at refused
      cases refused
      exact .constraintViolation table.name column.name .nullValue

/-! ### Records that can be stored -/

/-- A field can be stored if its name means a column that can hold its value. -/
theorem verifyField_eq_ok_iff {name : String} {value : Value} :
    table.verifyField name value = .ok () ↔
      ∃ column, table.column? name = some column ∧ column.verifyValue value = .ok () := by
  rw [verifyField]
  cases table.column? name <;> simp

/-- A list of fields can be stored if each of them can. -/
theorem verifyFields_eq_ok_iff {fields : List (String × Value)} :
    table.verifyFields fields = .ok () ↔
      ∀ field ∈ fields, table.verifyField field.1 field.2 = .ok () := by
  induction fields with
  | nil => simp [verifyFields]
  | cons field rest ih =>
    rw [verifyFields, List.forall_mem_cons, ← ih]
    cases table.verifyField field.1 field.2 <;> simp

/-- No required column is missing if all of them are set. -/
theorem missing?_eq_none_iff {record : Record} :
    table.missing? record = none ↔ ∀ column ∈ table.required, column.name ∈ record.columns := by
  simp only [missing?, List.find?_eq_none, Record.mem_columns_iff, ← Option.isSome_iff_exists,
    Bool.not_eq_true, Option.isNone_eq_false_iff]

/-- **The records that can be stored.** -/
theorem verify_eq_ok_iff {record : Record} :
    table.verify record = .ok () ↔
      (∀ field ∈ record.fields, ∃ column,
        table.column? field.1 = some column ∧ column.verifyValue field.2 = .ok ()) ∧
      ∀ column ∈ table.required, column.name ∈ record.columns := by
  simp only [← verifyField_eq_ok_iff, ← verifyFields_eq_ok_iff, ← missing?_eq_none_iff, verify]
  cases table.verifyFields record.fields <;> cases table.missing? record <;> simp

end Table

end Seeding
