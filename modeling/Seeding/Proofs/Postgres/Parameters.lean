/-
**The parameters of an INSERT statement.**

The text of a statement and its parameters are made apart from each other: the text from the names
of the columns, the parameters from the fields, and the type of a NULL from the table. A server
joins them again: it gives the column at a place of the list the parameter that the placeholder at
the same place asks for (`Statement.assignment?`). Each field is then found at its own place
(`assignment?_insertStatement`), and a record that the table can hold is sent in the types of the
table's columns, NULL included (`typedAsColumns_of_verify`).

Main statement: `parameters_line_up`, for every table and every record.
-/
import Seeding.Proofs.Plan.Rows
import Seeding.Proofs.Postgres.Statement

namespace Seeding.Postgres

open Token

/-! ### What a server is told -/

/-- The number of a placeholder. -/
def number? : Token → Option Nat
  | .placeholder number => some number
  | _ => none

namespace Parameter

/-- Whether a parameter is sent as a 64-bit integer; otherwise it is sent as a text. -/
def isInteger : Parameter → Bool
  | .integer _ => true
  | .text _ => false

/-- A parameter carries a value: a text or an integer as it is, and NULL in either type. -/
inductive Carries : Parameter → Value → Prop
  | text (content : String) : Carries (.text (some content)) (.text content)
  | enumerant (name : String) : Carries (.text (some name)) (.enumerant name)
  | integer (number : Int64) : Carries (.integer (some number)) (.integer number)
  | nullText : Carries (.text none) .null
  | nullInteger : Carries (.integer none) .null

end Parameter

namespace Statement

/-- The parameter that a placeholder of that number stands for; the first has number one. -/
def argument? (statement : Statement) : (number : Nat) → Option Parameter
  | 0 => none
  | place + 1 => statement.parameters[place]?

/-- The column at a place of the list after the table, with the parameter that the placeholder at
the same place of the list of values stands for. -/
def assignment? (statement : Statement) (place : Nat) : Option (String × Parameter) := do
  let tokens ← read? statement.text.toList
  let column ← (tokens.filterMap name?)[place + 1]?
  let number ← (tokens.filterMap number?)[place]?
  let argument ← statement.argument? number
  return (column, argument)

end Statement

/-- Each field of a record is sent as an integer if its name means an integer column of the table,
and as a text if it means another. -/
def TypedAsColumns (table : Table) (record : Record) : Prop :=
  ∀ (place : Nat) (name : String) (value : Value), record.fields[place]? = some (name, value) →
    ∃ (column : Column) (parameter : Parameter),
      table.column? name = some column ∧
      (insertStatement table record).parameters[place]? = some parameter ∧
      (parameter.isInteger = true ↔ column.type = .bigint ∨ column.type = .bigserial)

/-! ### Placeholders and parameters -/

/-- The placeholders of an INSERT statement are as many as its columns and numbered from one. -/
theorem numbers_insertTokens (table : String) (columns : List String) :
    (insertTokens table columns).filterMap number? = List.range' 1 columns.length := by
  rw [filterMap_insertTokens fun _ => rfl]
  by_cases none : columns = []
  · rw [if_pos none, none]
    rfl
  · have names : columns.filterMap (fun name => number? (.identifier name)) = [] :=
      List.filterMap_eq_nil_iff.mpr fun _ _ => rfl
    have numbers : (List.range' 1 columns.length).filterMap
        (fun number => number? (.placeholder number)) = List.range' 1 columns.length :=
      List.filterMap_some
    rw [if_neg none, names, numbers]
    simp [List.filterMap_cons, number?]

theorem read?_insertStatement (table : Table) (record : Record) :
    read? (insertStatement table record).text.toList =
      some (insertTokens table.name record.columns) := by
  rw [insertStatement, String.toList_ofList]
  exact read?_insertText table.name record.columns

/-- The parameter at a place is that of the field at the same place. -/
theorem parameters_getElem? (table : Table) (record : Record) (place : Nat) :
    (insertStatement table record).parameters[place]? =
      record.fields[place]?.map fun field => parameter table field.1 field.2 :=
  List.getElem?_map

/-- **Columns, placeholders and parameters stand in the same order**: at each place a server finds
the column and the value of the field at that place, and past the last field it finds nothing. -/
theorem assignment?_insertStatement (table : Table) (record : Record) (place : Nat) :
    (insertStatement table record).assignment? place =
      record.fields[place]?.map fun field => (field.1, parameter table field.1 field.2) := by
  have column :
      (table.name :: record.columns)[place + 1]? = record.fields[place]?.map Prod.fst := by
    rw [List.getElem?_cons_succ, Record.columns, List.getElem?_map]
  unfold Statement.assignment?
  rw [read?_insertStatement]
  simp only [Option.bind_eq_bind, Option.bind_some, names_insertTokens, numbers_insertTokens,
    column]
  cases here : record.fields[place]? with
  | none => rfl
  | some field =>
    have inside : place < record.columns.length := by
      rw [Record.columns, List.length_map]
      exact (List.getElem?_eq_some_iff.mp here).1
    have number : (List.range' 1 record.columns.length)[place]? = some (place + 1) := by
      rw [List.getElem?_range' inside, Nat.one_mul, Nat.add_comm]
    have argument : (insertStatement table record).argument? (place + 1) =
        some (parameter table field.1 field.2) := by
      rw [Statement.argument?, parameters_getElem?, here]
      rfl
    simp only [Option.map_some, Option.bind_some, number, argument]
    rfl

/-- A parameter carries the value of its field unchanged. -/
theorem parameter_carries (table : Table) (name : String) (value : Value) :
    (parameter table name value).Carries value := by
  cases value with
  | text content => exact .text content
  | enumerant content => exact .enumerant content
  | integer number => exact .integer number
  | null =>
    rw [parameter]
    split
    · exact .nullInteger
    · exact .nullText

/-! ### Types -/

/-- A name means an integer column if the first column of that name is one. -/
theorem isIntegerColumn_iff {table : Table} {name : String} {column : Column}
    (named : table.column? name = some column) :
    isIntegerColumn table name = true ↔ column.type = .bigint ∨ column.type = .bigserial := by
  rw [isIntegerColumn, named]
  cases type : column.type <;> simp [type]

/-- **The type of a parameter is that of its column**, if the column can hold the value. The type of
NULL is taken from the column; any other value brings its own, and the column holds no other. -/
theorem isInteger_parameter_iff {table : Table} {name : String} {column : Column} {value : Value}
    (named : table.column? name = some column) (fits : column.verifyValue value = .ok ()) :
    (parameter table name value).isInteger = true ↔
      column.type = .bigint ∨ column.type = .bigserial := by
  cases value with
  | null =>
    rw [← isIntegerColumn_iff named, parameter]
    cases isIntegerColumn table name <;> simp [Parameter.isInteger]
  | _ => cases type : column.type <;> simp_all [Column.verifyValue, parameter, Parameter.isInteger]

/-- A record that the table can hold is sent in the types of the table's columns. -/
theorem typedAsColumns_of_verify {table : Table} {record : Record}
    (storable : table.verify record = .ok ()) : TypedAsColumns table record := by
  intro place name value here
  obtain ⟨column, named, fits⟩ :=
    (Table.verify_eq_ok_iff.mp storable).1 (name, value) (List.mem_of_getElem? here)
  refine ⟨column, parameter table name value, named, ?_, isInteger_parameter_iff named fits⟩
  rw [parameters_getElem?, here]
  rfl

/-! ### Statements of records -/

/-- **Parameters line up with columns and their types.** For every table and every record, the text
of the statement is read as the table, the columns of the record and as many placeholders, numbered
from one, and there are as many parameters. The column, the placeholder and the parameter at a place
belong to the field at that place, and the parameter carries its value unchanged. If the table can
hold the record, each parameter is sent as a 64-bit integer exactly if the first column of the
field's name holds integers, NULL or not; so is every record that an accepted plan draws. -/
theorem parameters_line_up {σ : Type} [WordSource σ] :
    (∀ (table : Table) (record : Record),
      let statement := insertStatement table record
      statement.parameters.length = record.size ∧
      (∃ tokens, read? statement.text.toList = some tokens ∧
        tokens.filterMap name? = table.name :: record.columns ∧
        tokens.filterMap number? = List.range' 1 record.size) ∧
      (∀ (place : Nat) (name : String) (value : Value),
        record.fields[place]? = some (name, value) →
        ∃ parameter : Parameter,
          statement.assignment? place = some (name, parameter) ∧
          statement.parameters[place]? = some parameter ∧ parameter.Carries value) ∧
      (table.verify record = .ok () → TypedAsColumns table record)) ∧
    ∀ (plan accepted : Plan) (list : List Binding) (source : σ) (record : Record),
      plan.bind list = .ok accepted → (accepted.draw source).1 = .ok record →
        TypedAsColumns plan.table record := by
  refine ⟨fun table record => ⟨?_, ?_, ?_, typedAsColumns_of_verify⟩, ?_⟩
  · exact List.length_map _
  · refine ⟨_, read?_insertStatement table record, names_insertTokens _ _, ?_⟩
    rw [numbers_insertTokens, Record.columns, List.length_map, Record.size]
  · intro place name value here
    refine ⟨parameter table name value, ?_, ?_, parameter_carries table name value⟩
    · rw [assignment?_insertStatement, here]
      rfl
    · rw [parameters_getElem?, here]
      rfl
  · intro plan accepted list source record bound drawn
    obtain ⟨bindings, rfl, rfl⟩ := Plan.bindings_of_bind bound
    obtain rfl : (bindings.draw source).1 = record := Except.ok.inj drawn
    exact typedAsColumns_of_verify (bindings.draw_verified source)

/-- A dog of unknown age; the table has a second column of that name, which holds texts. -/
def ageless : Record :=
  ((Record.empty.set "breed" (.enumerant "PUG")).set "age" .null).set "name" (.text "Rex")

/-- The plan that binds dogs. -/
def dogsPlan : Plan :=
  { Plan.new Kennel.dogs with bindings := some (Kennel.job 3 (Nat.succ_pos 2)).bindings }

/-- The unknown age is sent as an integer, since the first column of its name holds integers. -/
theorem parameters_line_up_dogs :
    Kennel.dogs.verify ageless = .ok () ∧
    ageless.fields[1]? = some ("age", .null) ∧
    (insertStatement Kennel.dogs ageless).assignment? 1 = some ("age", .integer none) ∧
    TypedAsColumns Kennel.dogs ageless ∧
    (Plan.new Kennel.dogs).bind Kennel.bindings = .ok dogsPlan ∧
    ∃ record, (dogsPlan.draw ({ words := [1, 2, 3] } : Script)).1 = .ok record ∧
      TypedAsColumns Kennel.dogs record := by
  obtain ⟨statements, draws⟩ := @parameters_line_up Script _
  obtain ⟨_, _, fields, typed⟩ := statements Kennel.dogs ageless
  obtain ⟨parameter, assigned, sent, _⟩ := fields 1 "age" .null rfl
  have null : parameter = .integer none := Option.some.inj (sent.symm.trans (by decide))
  have bound : (Plan.new Kennel.dogs).bind Kennel.bindings = .ok dogsPlan := rfl
  have drawn : (dogsPlan.draw ({ words := [1, 2, 3] } : Script)).1 =
      .ok ((Kennel.job 3 (by decide)).bindings.draw ({ words := [1, 2, 3] } : Script)).1 := rfl
  exact ⟨by decide, rfl, null ▸ assigned, typed (by decide), bound, _, drawn,
    draws _ _ _ _ _ bound drawn⟩

end Seeding.Postgres
