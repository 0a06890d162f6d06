/-
**Records.**

A record gives values to columns. Each column occurs once; the columns keep the order in which they
were first set, and setting one again replaces its value in place (`names_put`).
-/
import Seeding.Value

namespace Seeding

namespace Record

/-- Sets a column in a list of fields: in its place if it is there, else at the end. -/
def put (column : String) (value : Value) : List (String × Value) → List (String × Value)
  | [] => [(column, value)]
  | (name, present) :: rest =>
    if name = column then (name, value) :: rest else (name, present) :: put column value rest

/-- Setting a column adds its name at the end if it is new and keeps the names otherwise. -/
theorem names_put (column : String) (value : Value) (fields : List (String × Value)) :
    (put column value fields).map Prod.fst =
      if column ∈ fields.map Prod.fst then fields.map Prod.fst
      else fields.map Prod.fst ++ [column] := by
  induction fields with
  | nil => rfl
  | cons field rest ih =>
    obtain ⟨name, present⟩ := field
    by_cases same : name = column
    · simp [put, same]
    · have other : column ≠ name := fun equal => same equal.symm
      simp only [put, if_neg same, List.map_cons, ih, List.mem_cons, other, false_or]
      split <;> rfl

end Record

/-- Values for columns, each column once, in the order in which they were first set. -/
structure Record where
  fields : List (String × Value) := []
  distinct : (fields.map Prod.fst).Nodup := by exact List.nodup_nil
  deriving DecidableEq, Repr

namespace Record

/-- The record without columns. -/
def empty : Record := {}

/-- The record with a column set to a value. -/
def set (record : Record) (column : String) (value : Value) : Record where
  fields := put column value record.fields
  distinct := by
    rw [names_put]
    split
    · exact record.distinct
    · rename_i absent
      exact List.nodup_append.mpr ⟨record.distinct, by simp, by
        rintro name member _ (same | ⟨_, ⟨⟩⟩) rfl
        exact absent member⟩

/-- The value of a column, if it is set. -/
def get? (record : Record) (column : String) : Option Value :=
  (record.fields.find? fun field => field.1 == column).map Prod.snd

/-- The columns that are set, in order. -/
def columns (record : Record) : List String := record.fields.map Prod.fst

/-- The number of columns that are set. -/
def size (record : Record) : Nat := record.fields.length

/-- A record in JSON: an object with a field for each column, in order. -/
def toJson (record : Record) : Json :=
  .object (record.fields.map fun field => (field.1, field.2.toJson))

end Record

end Seeding
