/-
**Rows of an accepted plan.**

The bindings of a plan are accepted as a whole: each column is the table's own, none is bound twice
and every required column is bound (`fault?_eq_none_iff`). Such bindings draw one field each, in
their order (`draw_fields`), and the record that they draw can be stored (`draw_verified`).

Main statement: `accepted_draw_storable`, for every plan, every list of bindings that it accepts and
every state of the source.
-/
import Mathlib
import Seeding.Proofs.Generator.Fitting
import Seeding.Proofs.Store.Rules
import Seeding.Proofs.Store.Steps
import Seeding.Random.Script
import Seeding.Session

namespace Seeding

/-! ### Which bindings are accepted -/

namespace Bindings

/-- The names of the columns that a list of bindings fills, in order. -/
abbrev names (list : List Binding) : List String := list.map fun binding => binding.column.name

/-- No binding is misplaced if all columns are the table's own, all names differ and none of them is
bound already. -/
theorem misplaced?_eq_none_iff {table : Table} {bound : List String} {list : List Binding} :
    misplaced? table bound list = none ↔
      (∀ binding ∈ list, table.owns binding.column = true) ∧ (names list).Nodup ∧
        ∀ name ∈ names list, name ∉ bound := by
  induction list generalizing bound with
  | nil => simp [misplaced?]
  | cons binding rest ih =>
    rw [misplaced?]
    by_cases owned : table.owns binding.column = true
    · by_cases repeated : binding.column.name ∈ bound
      · simp [owned, repeated]
      · rw [if_neg (by simp [owned]), if_neg repeated, ih]
        constructor
        · rintro ⟨owns, distinct, fresh⟩
          refine ⟨List.forall_mem_cons.mpr ⟨owned, owns⟩, List.nodup_cons.mpr ⟨?_, distinct⟩,
            List.forall_mem_cons.mpr ⟨repeated, fun name member => ?_⟩⟩
          · exact fun member => fresh _ member List.mem_cons_self
          · exact fun old => fresh name member (List.mem_cons_of_mem _ old)
        · rintro ⟨owns, distinct, fresh⟩
          obtain ⟨absent, distinct'⟩ := List.nodup_cons.mp distinct
          refine ⟨(List.forall_mem_cons.mp owns).2, distinct', fun name member old => ?_⟩
          rcases List.mem_cons.mp old with rfl | earlier
          · exact absent member
          · exact (List.forall_mem_cons.mp fresh).2 name member earlier
    · simp [owned]

/-- A list of bindings covers a table if every required column is bound. -/
theorem uncovered?_eq_none_iff {table : Table} {list : List Binding} :
    uncovered? table list = none ↔ ∀ column ∈ table.required, column.name ∈ names list := by
  simp only [uncovered?, List.find?_eq_none, Bool.not_eq_true', Bool.not_eq_false,
    List.contains_iff_mem]

/-- **Accepted bindings**: owned, distinct and covering the required columns. -/
theorem fault?_eq_none_iff {table : Table} {list : List Binding} :
    fault? table list = none ↔
      (∀ binding ∈ list, table.owns binding.column = true) ∧ (names list).Nodup ∧
        ∀ column ∈ table.required, column.name ∈ names list := by
  have placed := @misplaced?_eq_none_iff table [] list
  simp only [List.not_mem_nil, not_false_eq_true, implies_true, and_true] at placed
  rw [fault?, ← uncovered?_eq_none_iff, ← and_assoc, ← placed]
  cases misplaced? table [] list <;> simp

end Bindings

/-- A column that a table owns is the first of its name. -/
theorem Table.column?_of_owns {table : Table} {column : Column} (owned : table.owns column = true) :
    table.column? column.name = some column := by
  simp only [owns, Bool.and_eq_true, beq_iff_eq] at owned
  exact owned.2

/-! ### What bindings draw -/

namespace Binding

variable {σ : Type} [WordSource σ]

/-- The values that bindings draw, one after the other. -/
def values (list : List Binding) : StateM σ (List Value) :=
  list.mapM fun binding => binding.generator.sample

theorem values_cons (binding : Binding) (rest : List Binding) (source : σ) :
    values (binding :: rest) source =
      ((binding.generator.sample source).1 :: (values rest (binding.generator.sample source).2).1,
        (values rest (binding.generator.sample source).2).2) := by
  rw [values, List.mapM_cons]
  rfl

/-- Each binding draws a value that its column can hold. -/
theorem values_fit (list : List Binding) (source : σ) :
    List.Forall₂ (fun binding value => binding.column.verifyValue value = .ok ()) list
      (values list source).1 := by
  induction list generalizing source with
  | nil => exact List.Forall₂.nil
  | cons binding rest ih =>
    rw [values_cons]
    exact List.Forall₂.cons (Generator.sample_fits binding.fits source) (ih _)

/-- **Bindings of different new columns fill one field each**, with the values that they draw. -/
theorem fill_fields (list : List Binding) (record : Record) (source : σ)
    (distinct : (record.columns ++ Bindings.names list).Nodup) :
    (fill list record source).1.fields =
        record.fields ++ (Bindings.names list).zip (values list source).1 ∧
      (fill list record source).2 = (values list source).2 := by
  induction list generalizing record source with
  | nil => exact ⟨(List.append_nil _).symm, rfl⟩
  | cons binding rest ih =>
    have new : binding.column.name ∉ record.columns := fun old =>
      (List.nodup_append.mp distinct).2.2 _ old _ List.mem_cons_self rfl
    have fields := Record.fields_set_new (binding.generator.sample source).1 new
    have columns : (record.set binding.column.name (binding.generator.sample source).1).columns =
        record.columns ++ [binding.column.name] :=
      (Record.columns_set record _ _).trans (if_neg new)
    obtain ⟨filled, left⟩ := ih (record.set binding.column.name (binding.generator.sample source).1)
      (binding.generator.sample source).2 (by
        rw [columns, List.append_assoc]
        exact distinct)
    rw [values_cons]
    refine ⟨?_, left⟩
    simp only [fill, State.bind_apply, filled, fields, List.append_assoc, List.map_cons,
      List.zip_cons_cons, List.singleton_append]

end Binding

namespace Bindings

variable {σ : Type} [WordSource σ] {table : Table} (bindings : Bindings table) (source : σ)

/-- A draw sets the bound columns in their order, each to the value that its binding draws. -/
theorem draw_fields :
    (bindings.draw source).1.fields =
        (names bindings.list).zip (Binding.values bindings.list source).1 ∧
      (bindings.draw source).2 = (Binding.values bindings.list source).2 :=
  Binding.fill_fields bindings.list Record.empty source (fault?_eq_none_iff.mp bindings.sound).2.1

/-- The columns of a record that is drawn are those of the bindings. -/
theorem draw_columns : (bindings.draw source).1.columns = names bindings.list := by
  have fits := (Binding.values_fit bindings.list source).length_eq
  rw [Record.columns, (bindings.draw_fields source).1]
  exact List.map_fst_zip (by simp [fits])

/-- A field of a record that is drawn can be stored in the column of its name. -/
theorem draw_fits {field : String × Value} (member : field ∈ (bindings.draw source).1.fields) :
    ∃ column, table.column? field.1 = some column ∧ column.verifyValue field.2 = .ok () := by
  rw [(bindings.draw_fields source).1, List.zip_map_left] at member
  obtain ⟨⟨binding, value⟩, paired, rfl⟩ := List.mem_map.mp member
  have owned := (fault?_eq_none_iff.mp bindings.sound).1 binding (List.of_mem_zip paired).1
  exact ⟨binding.column, Table.column?_of_owns owned,
    List.forall₂_zip (Binding.values_fit bindings.list source) paired⟩

/-- **A record that accepted bindings draw can be stored.** -/
theorem draw_verified : table.verify (bindings.draw source).1 = .ok () := by
  refine Table.verify_eq_ok_iff.mpr ⟨fun field member => bindings.draw_fits source member, ?_⟩
  rw [draw_columns]
  exact (fault?_eq_none_iff.mp bindings.sound).2.2

end Bindings

/-! ### Accepted plans -/

/-- A value that a column can hold is NULL only if the column allows it. -/
theorem Column.nullable_of_verifyValue {column : Column}
    (fits : column.verifyValue .null = .ok ()) : column.nullable = true := by
  simpa [verifyValue] using fits

/-- A list of bindings is accepted as it is. -/
theorem Bindings.list_ofList {table : Table} {list : List Binding} {bindings : Bindings table}
    (accepted : ofList table list = .ok bindings) : bindings.list = list := by
  unfold ofList at accepted
  split at accepted
  · cases accepted
    rfl
  · cases accepted

/-- The bindings that a plan accepts become its own. -/
theorem Plan.bindings_of_bind {plan accepted : Plan} {list : List Binding}
    (bound : plan.bind list = .ok accepted) :
    ∃ bindings : Bindings plan.table,
      bindings.list = list ∧ accepted = { plan with bindings := some bindings } := by
  unfold bind at bound
  split at bound
  · cases bound
  · cases checked : Bindings.ofList plan.table list with
    | error error =>
      rw [checked] at bound
      cases bound
    | ok bindings =>
      rw [checked] at bound
      cases bound
      exact ⟨bindings, Bindings.list_ofList checked, rfl⟩

/-- **The rows of an accepted plan.** Whatever generators its bindings hold, a plan that accepts
them draws, from every state of the source, a record with one field per binding in their order, each
with the value that its binding drew. The store takes the record: a field is NULL only where the
column may be, every required column is set, and an insertion can fail only for the want of a
transaction or because it was declared to. -/
theorem accepted_draw_storable {σ : Type} [WordSource σ] {plan accepted : Plan}
    {list : List Binding} (bound : plan.bind list = .ok accepted) (source : σ) :
    ∃ record : Record,
      (accepted.draw source).1 = .ok record ∧
      record.columns = list.map (fun binding => binding.column.name) ∧
      record.fields.map Prod.snd = (Binding.values list source).1 ∧
      plan.table.verify record = .ok () ∧
      (∀ name, record.get? name = some .null →
        ∃ column, plan.table.column? name = some column ∧ column.nullable = true) ∧
      (∀ column ∈ plan.table.required, ∃ value, record.get? column.name = some value) ∧
      (∀ (store : Store) (error : StoreError),
        (store.insert plan.table record).1.result = .error error →
          error = .noTransaction ∨
            ∃ row, error = .rejected plan.table.name (.injectedRow row)) := by
  obtain ⟨bindings, rfl, rfl⟩ := Plan.bindings_of_bind bound
  have storable := bindings.draw_verified source
  obtain ⟨fields, covered⟩ := Table.verify_eq_ok_iff.mp storable
  refine ⟨(bindings.draw source).1, rfl, bindings.draw_columns source, ?_, storable, ?_, ?_, ?_⟩
  · rw [(bindings.draw_fields source).1]
    exact List.map_snd_zip (by simp [(Binding.values_fit bindings.list source).length_eq])
  · intro name null
    obtain ⟨column, named, fits⟩ := fields _ (Record.get?_eq_some_iff.mp null)
    exact ⟨column, named, Column.nullable_of_verifyValue fits⟩
  · exact fun column required => Record.mem_columns_iff.mp (covered column required)
  · exact fun store error refused => Store.insert_refusal storable refused

/-! ### A table with a repeated name -/

namespace Kennel

/-- Dogs with a number, a name, an age that may be unknown, and a second column of that name. -/
def dogs : Table := Table.ofColumns "dogs" [
  Column.declare "id" .bigserial,
  Column.declare "name" (.varchar 8),
  (Column.declare "age" .bigint).allowingNull,
  Column.declare "age" .text,
  Column.declare "breed" (.enumeration 6 ["POODLE", "PUG"])]

/-- The column that a name means. -/
def column (name : String) : Column := (dogs.column? name).getD (Column.declare name .text)

/-- Bindings for dogs, in another order than the columns and with an optional age inside another. -/
def bindings : List Binding := [
  { column := column "breed"
    generator := .enumeration ⟨["PUG", "POODLE"], by decide⟩
    fits := by decide },
  { column := column "age"
    generator := .optional 40 (.optional 0 (.integer ⟨1, 15, by decide⟩))
    fits := by decide },
  { column := column "name"
    generator := .string ⟨1, 8, by decide⟩
    fits := by decide }]

/-- So many rows of dogs. -/
def job (rows : Nat) (positive : 0 < rows) : Job where
  table := dogs
  rows
  positive
  bindings := { list := bindings, sound := by decide }

/-- The plan of a job. -/
def plan (rows : Nat) (positive : 0 < rows) : Plan where
  table := dogs
  rows
  positive
  bindings := some (job rows positive).bindings

/-- A session that fills the table of dogs twice. -/
def session : Session where
  plans := [plan 3 (by decide), plan 2 (by decide)]

theorem session_ready :
    session.jobs = .ok [job 3 (by decide), job 2 (by decide)] := rfl

end Kennel

/-- The table of dogs accepts its bindings and takes what they draw. -/
theorem accepted_draw_storable_dogs : ∃ accepted record,
    (Plan.new Kennel.dogs).bind Kennel.bindings = .ok accepted ∧
      (accepted.draw ({ words := [1, 2, 3] } : Script)).1 = .ok record ∧
      record.columns = ["breed", "age", "name"] ∧ Kennel.dogs.verify record = .ok () := by
  have bound : (Plan.new Kennel.dogs).bind Kennel.bindings = .ok _ := rfl
  obtain ⟨record, drawn, columns, _, storable, _⟩ :=
    accepted_draw_storable bound ({ words := [1, 2, 3] } : Script)
  exact ⟨_, record, bound, drawn, columns, storable⟩

end Seeding
