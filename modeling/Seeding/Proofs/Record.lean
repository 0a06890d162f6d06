/-
**What a record holds.**

The fields of a record are told apart by their columns, so a field and the value of its column say
the same (`get?_eq_some_iff`), and the columns with their values say all of a record
(`eq_of_get?`). To set a column concerns no other: a new one is put after the others
(`columns_set`) and only its own value changes (`get?_set`).
-/
import Mathlib.Data.List.Nodup
import Seeding.Record

namespace Seeding.Record

/-- Setting a column that is not there puts it at the end. -/
theorem put_new {column : String} (value : Value) {fields : List (String × Value)}
    (new : column ∉ fields.map Prod.fst) :
    put column value fields = fields ++ [(column, value)] := by
  induction fields with
  | nil => rfl
  | cons field rest ih =>
    obtain ⟨name, present⟩ := field
    obtain ⟨other, later⟩ := not_or.mp (mt List.mem_cons.mpr new)
    rw [put, if_neg (Ne.symm other), ih later, List.cons_append]

/-- A column that is new is set after the others. -/
theorem fields_set_new {record : Record} {column : String} (value : Value)
    (new : column ∉ record.columns) :
    (record.set column value).fields = record.fields ++ [(column, value)] :=
  put_new value new

/-- Setting a column puts it after the others if it is new, and keeps the columns otherwise. -/
theorem columns_set (record : Record) (column : String) (value : Value) :
    (record.set column value).columns =
      if column ∈ record.columns then record.columns else record.columns ++ [column] :=
  names_put column value record.fields

/-- The first field of a name after a column is put: its own name has the new value. -/
theorem find?_put (column : String) (value : Value) (fields : List (String × Value))
    (name : String) :
    ((put column value fields).find? fun field => field.1 == name).map Prod.snd =
      if name = column then some value
      else (fields.find? fun field => field.1 == name).map Prod.snd := by
  induction fields with
  | nil =>
    by_cases own : column = name
    · simp [put, own]
    · simp [put, own, Ne.symm own]
  | cons field rest ih =>
    obtain ⟨here, present⟩ := field
    by_cases placed : here = column
    · subst placed
      rw [put, if_pos rfl]
      by_cases own : here = name
      · simp [own]
      · simp [own, Ne.symm own]
    · rw [put, if_neg placed]
      by_cases found : here = name
      · have other : name ≠ column := found ▸ placed
        simp [found, other]
      · simpa [found] using ih

/-- A column that is set has the new value, and any other keeps the value that it had. -/
theorem get?_set (record : Record) (column : String) (value : Value) (name : String) :
    (record.set column value).get? name =
      if name = column then some value else record.get? name :=
  find?_put column value record.fields name

/-- A column has a value exactly if the two make a field. -/
theorem get?_eq_some_iff {record : Record} {column : String} {value : Value} :
    record.get? column = some value ↔ (column, value) ∈ record.fields := by
  constructor
  · intro found
    obtain ⟨field, here, rfl⟩ := Option.map_eq_some_iff.mp found
    have name : field.1 = column := by simpa using List.find?_some here
    exact name ▸ List.mem_of_find?_eq_some here
  · intro member
    have present : (record.fields.find? fun field => field.1 == column).isSome :=
      List.find?_isSome.mpr ⟨_, member, by simp⟩
    obtain ⟨field, here⟩ := Option.isSome_iff_exists.mp present
    have name : field.1 = column := by simpa using List.find?_some here
    have listed := List.mem_of_find?_eq_some here
    have same := List.inj_on_of_nodup_map record.distinct listed member name
    rw [get?, here, same]
    rfl

/-- A column is set exactly if it has a value. -/
theorem mem_columns_iff {record : Record} {column : String} :
    column ∈ record.columns ↔ ∃ value, record.get? column = some value := by
  simp only [columns, List.mem_map, get?_eq_some_iff, Prod.exists, exists_and_right,
    exists_eq_right]

/-- A column has no value exactly if it is not set. -/
theorem get?_eq_none_iff {record : Record} {column : String} :
    record.get? column = none ↔ column ∉ record.columns := by
  rw [mem_columns_iff, Option.eq_none_iff_forall_ne_some, not_exists]

/-- The fields are told by the columns and their values. -/
theorem fields_eq (record : Record) : record.fields =
    record.columns.map fun name => (name, (record.get? name).getD .null) := by
  rw [columns, List.map_map]
  refine (List.map_id record.fields).symm.trans (List.map_congr_left fun field member => ?_)
  have found : record.get? field.1 = some field.2 := get?_eq_some_iff.mpr member
  rw [Function.comp_apply, found]
  rfl

/-- Records with the same columns in the same order and the same values are the same. -/
theorem eq_of_get? {first second : Record} (columns : first.columns = second.columns)
    (values : ∀ name, first.get? name = second.get? name) : first = second := by
  have fields : first.fields = second.fields := by
    rw [fields_eq, fields_eq, columns]
    refine List.map_congr_left fun name _ => ?_
    rw [values]
  cases first
  cases second
  cases fields
  rfl

end Seeding.Record
