/-
**Well-typed records.**

The name of a field means the first column of that name. A column can hold NULL if it is nullable,
and else the values of its type (`Column.Holds`). A record is well typed if each field names a
column that can hold its value and every required column is set, and the store takes just these
records. To any other it makes one objection (`Refusal`): to the first field in the order of the
record that is not right, or if there is none, for the first required column in the order of the
table that is not set.

* `verifyValue_eq_ok_iff`, `verifyValue_eq_error_iff` — every value in every column.
* `wellTyped_decided` — every record for every table, and what the rules come to where no two columns
  share a name.
-/
import Seeding.Demo
import Seeding.Proofs.Store.Rules

namespace Seeding

/-- The table and the column that an error is about. -/
def StoreError.place? : StoreError → Option (String × String)
  | .constraintViolation table column _ => some (table, column)
  | .typeMismatch table column _ _ => some (table, column)
  | _ => none

/-! ### What columns can hold -/

/-- A text or a choice of these characters. -/
def Value.HasCharacters (value : Value) (content : String) : Prop :=
  value = .text content ∨ value = .enumerant content

namespace ColumnType

/-- The values of a type. NULL is not one of them. -/
def Holds : ColumnType → Value → Prop
  | .varchar limit, value => ∃ content, value.HasCharacters content ∧ content.length ≤ limit
  | .text, value => ∃ content, value.HasCharacters content
  | .enumeration limit domain, value =>
    ∃ name ∈ domain, value = .enumerant name ∧ name.length ≤ limit
  | .bigint, value => ∃ number, value = .integer number
  | .bigserial, value => ∃ number, value = .integer number

/-- The values of the kinds that a type is for, whether or not they are values of the type. -/
def Takes : ColumnType → Value → Prop
  | .varchar _, value => ∃ content, value.HasCharacters content
  | .text, value => ∃ content, value.HasCharacters content
  | .enumeration _ _, value => ∃ name, value = .enumerant name
  | .bigint, value => ∃ number, value = .integer number
  | .bigserial, value => ∃ number, value = .integer number

/-- The word for the kind that a type is for. -/
def kindName : ColumnType → String
  | .varchar _ => "text"
  | .text => "text"
  | .enumeration _ _ => "enum"
  | .bigint => "int"
  | .bigserial => "int"

theorem Holds.ne_null {type : ColumnType} {value : Value} (holds : type.Holds value) :
    value ≠ .null := by
  rintro rfl
  cases type <;> simp [Holds, Value.HasCharacters] at holds

end ColumnType

namespace Column

/-- The values that a column can hold. -/
def Holds (column : Column) (value : Value) : Prop :=
  value = .null ∧ column.nullable = true ∨ column.type.Holds value

/-- What is to be said against a value in a column. -/
inductive Objection (column : Column) (value : Value) : StoreError → Prop
  | null (null : value = .null) (strict : column.nullable = false) :
    Objection column value (.constraintViolation column.table column.name .nullValue)
  | tooLong {content : String} {limit : Nat} (type : column.type = .varchar limit)
      (written : value.HasCharacters content) (long : limit < content.length) :
    Objection column value (.constraintViolation column.table column.name (.tooLong limit))
  | choiceTooLong {name : String} {limit : Nat} {domain : List String}
      (type : column.type = .enumeration limit domain) (choice : value = .enumerant name)
      (long : limit < name.length) :
    Objection column value (.constraintViolation column.table column.name (.tooLong limit))
  | outsideDomain {name : String} {limit : Nat} {domain : List String}
      (type : column.type = .enumeration limit domain) (choice : value = .enumerant name)
      (short : name.length ≤ limit) (outside : name ∉ domain) :
    Objection column value (.constraintViolation column.table column.name (.notEnumerant name))
  | otherKind (given : value ≠ .null) (other : ¬ column.type.Takes value) :
    Objection column value
      (.typeMismatch column.table column.name column.type.kindName value.kindName)

variable {column : Column} {value : Value} {error : StoreError}

theorem Objection.place (objection : column.Objection value error) :
    error.place? = some (column.table, column.name) := by
  cases objection <;> rfl

/-- **The values that pass the check** are those that the column can hold. -/
theorem verifyValue_eq_ok_iff : column.verifyValue value = .ok () ↔ column.Holds value := by
  unfold verifyValue Holds
  cases value with
  | null =>
    have none : ¬ column.type.Holds .null := fun holds => holds.ne_null rfl
    cases nullable : column.nullable <;> simp [none]
  | integer number => cases column.type <;> simp [ColumnType.Holds, Value.HasCharacters]
  | text content =>
    cases column.type with
    | varchar limit =>
      by_cases long : limit < content.length
      · simp [ColumnType.Holds, Value.HasCharacters, long]
      · simp [ColumnType.Holds, Value.HasCharacters, long, Nat.not_lt.mp long]
    | _ => simp [ColumnType.Holds, Value.HasCharacters]
  | enumerant name =>
    cases column.type with
    | varchar limit =>
      by_cases long : limit < name.length
      · simp [ColumnType.Holds, Value.HasCharacters, long]
      · simp [ColumnType.Holds, Value.HasCharacters, long, Nat.not_lt.mp long]
    | enumeration limit domain =>
      by_cases long : limit < name.length
      · simp [ColumnType.Holds, long]
      · by_cases inside : name ∈ domain
        · simp [ColumnType.Holds, long, inside, Nat.not_lt.mp long]
        · simp [ColumnType.Holds, long, inside]
    | _ => simp [ColumnType.Holds, Value.HasCharacters]

/-- A value of a kind that the column is not for. -/
theorem verifyValue_of_otherKind (given : value ≠ .null) (other : ¬ column.type.Takes value) :
    column.verifyValue value =
      .error (.typeMismatch column.table column.name column.type.kindName value.kindName) := by
  unfold verifyValue
  cases type : column.type <;> cases value <;>
    simp_all [ColumnType.Takes, Value.HasCharacters, ColumnType.kindName, mismatched]

/-- **Every value that a column cannot hold is objected to.** -/
theorem exists_objection (unheld : ¬ column.Holds value) : ∃ error, column.Objection value error := by
  obtain ⟨notNull, outside⟩ := not_or.mp unheld
  by_cases null : value = .null
  · exact ⟨_, .null null (by simpa [null] using notNull)⟩
  · by_cases takes : column.type.Takes value
    · cases type : column.type with
      | varchar limit =>
        rw [type] at takes outside
        obtain ⟨content, written⟩ := takes
        have long : limit < content.length :=
          Nat.not_le.mp fun short => outside ⟨content, written, short⟩
        exact ⟨_, .tooLong type written long⟩
      | enumeration limit domain =>
        rw [type] at takes outside
        obtain ⟨name, choice⟩ := takes
        by_cases short : name.length ≤ limit
        · exact ⟨_, .outsideDomain type choice short
            fun inside => outside ⟨name, inside, choice, short⟩⟩
        · exact ⟨_, .choiceTooLong type choice (Nat.not_le.mp short)⟩
      | _ =>
        rw [type] at takes outside
        exact absurd takes outside
    · exact ⟨_, .otherKind null takes⟩

/-- An objection is the error of the check. -/
theorem Objection.verifyValue_eq (objection : column.Objection value error) :
    column.verifyValue value = .error error := by
  cases objection with
  | null null strict =>
    subst null
    simp [verifyValue, strict, violated]
  | tooLong type written long =>
    rcases written with rfl | rfl
    · simp [verifyValue, type, long, violated]
    · simp [verifyValue, type, long, violated]
  | choiceTooLong type choice long =>
    subst choice
    simp [verifyValue, type, long, violated]
  | outsideDomain type choice short outside =>
    subst choice
    simp [verifyValue, type, Nat.not_lt.mpr short, outside, violated]
  | otherKind given other => exact verifyValue_of_otherKind given other

/-- **A value that does not pass the check** is refused with what is to be said against it. -/
theorem verifyValue_eq_error_iff :
    column.verifyValue value = .error error ↔ column.Objection value error := by
  refine ⟨fun refused => ?_, Objection.verifyValue_eq⟩
  have unheld : ¬ column.Holds value := by
    rw [← verifyValue_eq_ok_iff, refused]
    simp
  obtain ⟨other, objection⟩ := exists_objection unheld
  have same := refused.symm.trans objection.verifyValue_eq
  rwa [Except.error.inj same]

end Column

/-! ### Fields -/

namespace Table

/-- The first column of a name. -/
def Means (table : Table) (name : String) (column : Column) : Prop :=
  ∃ before after, table.columns = before ++ column :: after ∧ column.name = name ∧
    ∀ other ∈ before, other.name ≠ name

/-- A name and a value that the table can hold in the column of that name. -/
def Fits (table : Table) (name : String) (value : Value) : Prop :=
  ∃ column, table.Means name column ∧ column.Holds value

/-- What is to be said against a field. -/
inductive Objection (table : Table) (name : String) (value : Value) : StoreError → Prop
  | unknown (unknown : ∀ column ∈ table.columns, column.name ≠ name) :
    Objection table name value (.constraintViolation table.name name .noSuchColumn)
  | misfit {column : Column} {error : StoreError} (means : table.Means name column)
      (objection : column.Objection value error) : Objection table name value error

variable {table : Table} {name : String} {value : Value} {error : StoreError} {column : Column}

theorem column?_eq_some_iff : table.column? name = some column ↔ table.Means name column := by
  unfold column? Means
  rw [List.find?_eq_some_iff_append]
  simp only [beq_iff_eq, Bool.not_eq_eq_eq_not, Bool.not_true, beq_eq_false_iff_ne]
  constructor
  · rintro ⟨named, before, after, split, others⟩
    exact ⟨before, after, split, named, others⟩
  · rintro ⟨before, after, split, named, others⟩
    exact ⟨named, before, after, split, others⟩

theorem Means.mem (means : table.Means name column) : column ∈ table.columns := by
  obtain ⟨before, after, split, -, -⟩ := means
  rw [split]
  exact List.mem_append_right before List.mem_cons_self

theorem column?_eq_none_iff :
    table.column? name = none ↔ ∀ column ∈ table.columns, column.name ≠ name := by
  simp [column?]

theorem verifyField_eq_ok_iff_fits :
    table.verifyField name value = .ok () ↔ table.Fits name value := by
  simp only [verifyField_eq_ok_iff, column?_eq_some_iff, Column.verifyValue_eq_ok_iff, Fits]

/-- **A field that does not pass the check** is refused with what is to be said against it. -/
theorem verifyField_eq_error_iff :
    table.verifyField name value = .error error ↔ table.Objection name value error := by
  unfold verifyField
  constructor
  · intro refused
    cases named : table.column? name with
    | none =>
      rw [named] at refused
      cases refused
      exact .unknown (column?_eq_none_iff.mp named)
    | some column =>
      rw [named] at refused
      exact .misfit (column?_eq_some_iff.mp named) (Column.verifyValue_eq_error_iff.mp refused)
  · rintro (unknown | ⟨means, objection⟩)
    · rw [column?_eq_none_iff.mpr unknown]
    · rw [column?_eq_some_iff.mpr means]
      exact objection.verifyValue_eq

/-- An objection to a field names the table and the column that the field is for. -/
theorem Objection.place (objection : table.Objection name value error) :
    error.place? = some (table.name, name) := by
  cases objection with
  | unknown unknown => rfl
  | @misfit column _ means objection =>
    have home : column.table = table.name := table.owned column means.mem
    have named : column.name = name := by
      obtain ⟨_, _, -, named, -⟩ := means
      exact named
    rw [objection.place, home, named]

/-! ### Records -/

/-- Each field names a column that can hold its value, and every required column is set. -/
structure WellTyped (table : Table) (record : Record) : Prop where
  fields : ∀ field ∈ record.fields, table.Fits field.1 field.2
  required : ∀ column ∈ table.required, column.name ∈ record.columns

/-- What is to be said against a record, and the name of the column that it is about. -/
inductive Refusal (table : Table) (record : Record) : String → StoreError → Prop
  /-- The first field that is not right is objected to. -/
  | field {before after : List (String × Value)} {name : String} {value : Value}
      {error : StoreError} (split : record.fields = before ++ (name, value) :: after)
      (right : ∀ field ∈ before, table.Fits field.1 field.2)
      (objection : table.Objection name value error) : Refusal table record name error
  /-- All fields are right, and this is the first required column that is not set. -/
  | absent {before after : List Column} {column : Column}
      (right : ∀ field ∈ record.fields, table.Fits field.1 field.2)
      (split : table.required = before ++ column :: after)
      (set : ∀ other ∈ before, other.name ∈ record.columns) (unset : column.name ∉ record.columns) :
    Refusal table record column.name (.constraintViolation table.name column.name .nullValue)

variable {record : Record}

/-- The error of a refusal names the table and the column. -/
theorem Refusal.place (refusal : table.Refusal record name error) :
    error.place? = some (table.name, name) := by
  cases refusal with
  | field split right objection => exact objection.place
  | absent right split set unset => rfl

theorem verify_eq_ok_iff_wellTyped : table.verify record = .ok () ↔ table.WellTyped record := by
  rw [verify_eq_ok_iff]
  simp only [column?_eq_some_iff, Column.verifyValue_eq_ok_iff]
  exact ⟨fun ⟨fields, required⟩ => ⟨fields, required⟩, fun typed => ⟨typed.fields, typed.required⟩⟩

theorem verifyFields_eq_ok_iff_fits {fields : List (String × Value)} :
    table.verifyFields fields = .ok () ↔ ∀ field ∈ fields, table.Fits field.1 field.2 := by
  rw [verifyFields_eq_ok_iff]
  simp only [verifyField_eq_ok_iff_fits]

/-- The check of fields goes on behind those that are right. -/
theorem verifyFields_append {before : List (String × Value)}
    (right : ∀ field ∈ before, table.Fits field.1 field.2) (rest : List (String × Value)) :
    table.verifyFields (before ++ rest) = table.verifyFields rest := by
  induction before with
  | nil => rfl
  | cons field others ih =>
    obtain ⟨here, later⟩ := List.forall_mem_cons.mp right
    rw [List.cons_append, verifyFields, verifyField_eq_ok_iff_fits.mpr here]
    exact ih later

/-- The check of fields stops at the first that is not right. -/
theorem verifyFields_eq_error_iff {fields : List (String × Value)} :
    table.verifyFields fields = .error error ↔
      ∃ before name value after, fields = before ++ (name, value) :: after ∧
        (∀ field ∈ before, table.Fits field.1 field.2) ∧ table.Objection name value error := by
  constructor
  · intro refused
    induction fields with
    | nil => cases refused
    | cons field rest ih =>
      unfold verifyFields at refused
      cases checked : table.verifyField field.1 field.2 with
      | error first =>
        rw [checked] at refused
        cases refused
        exact ⟨[], field.1, field.2, rest, rfl, by simp, verifyField_eq_error_iff.mp checked⟩
      | ok _ =>
        rw [checked] at refused
        obtain ⟨before, name, value, after, rfl, right, objection⟩ := ih refused
        have here := verifyField_eq_ok_iff_fits.mp checked
        exact ⟨field :: before, name, value, after, rfl, List.forall_mem_cons.mpr ⟨here, right⟩,
          objection⟩
  · rintro ⟨before, name, value, after, rfl, right, objection⟩
    rw [verifyFields_append right, verifyFields, verifyField_eq_error_iff.mpr objection]

theorem missing?_eq_some_iff :
    table.missing? record = some column ↔
      ∃ before after, table.required = before ++ column :: after ∧
        (∀ other ∈ before, other.name ∈ record.columns) ∧ column.name ∉ record.columns := by
  have unset (column : Column) :
      (record.get? column.name).isNone = true ↔ column.name ∉ record.columns :=
    Option.isNone_iff_eq_none.trans Record.get?_eq_none_iff
  have set (column : Column) :
      (!(record.get? column.name).isNone) = true ↔ column.name ∈ record.columns := by
    rw [Bool.not_eq_true', ← Bool.not_eq_true, unset, not_not]
  unfold missing?
  rw [List.find?_eq_some_iff_append]
  simp only [unset, set]
  constructor
  · rintro ⟨absent, before, after, split, others⟩
    exact ⟨before, after, split, others, absent⟩
  · rintro ⟨before, after, split, others, absent⟩
    exact ⟨absent, before, after, split, others⟩

/-- **A record that does not pass the check** is refused with what is to be said against it. -/
theorem verify_eq_error_iff :
    table.verify record = .error error ↔ ∃ name, table.Refusal record name error := by
  unfold verify
  constructor
  · intro refused
    cases checked : table.verifyFields record.fields with
    | error first =>
      rw [checked] at refused
      cases refused
      obtain ⟨before, name, value, after, split, right, objection⟩ :=
        verifyFields_eq_error_iff.mp checked
      exact ⟨name, .field split right objection⟩
    | ok _ =>
      rw [checked] at refused
      cases missing : table.missing? record with
      | none =>
        rw [missing] at refused
        cases refused
      | some column =>
        rw [missing] at refused
        cases refused
        obtain ⟨before, after, split, set, unset⟩ := missing?_eq_some_iff.mp missing
        exact ⟨column.name, .absent (verifyFields_eq_ok_iff_fits.mp checked) split set unset⟩
  · rintro ⟨_, ⟨split, right, objection⟩ | ⟨right, split, set, unset⟩⟩
    · rw [verifyFields_eq_error_iff.mpr ⟨_, _, _, _, split, right, objection⟩]
    · rw [verifyFields_eq_ok_iff_fits.mpr right,
        missing?_eq_some_iff.mpr ⟨_, _, split, set, unset⟩]

/-! ### Tables in which no two columns share a name -/

/-- A column is what its name means. -/
theorem means_of_distinct (distinct : (table.columns.map Column.name).Nodup)
    (member : column ∈ table.columns) : table.Means column.name column := by
  obtain ⟨before, after, split⟩ := List.append_of_mem member
  refine ⟨before, after, split, rfl, fun other earlier => ?_⟩
  rw [split, List.map_append, List.map_cons] at distinct
  exact (List.nodup_append.mp distinct).2.2 _ (List.mem_map_of_mem earlier) _ List.mem_cons_self

/-- The value of a field is one that the column of its name can hold. -/
theorem WellTyped.holds (typed : table.WellTyped record)
    (distinct : (table.columns.map Column.name).Nodup) (member : column ∈ table.columns)
    (given : record.get? column.name = some value) : column.Holds value := by
  obtain ⟨other, means, holds⟩ := typed.fields _ (Record.get?_eq_some_iff.mp given)
  have same := column?_eq_some_iff.mpr (means_of_distinct distinct member)
  rw [column?_eq_some_iff.mpr means] at same
  cases same
  exact holds

theorem mem_required_iff : column ∈ table.required ↔
    column ∈ table.columns ∧ column.nullable = false ∧ column.hasDefault = false := by
  simp [required, Column.isRequired]

end Table

/-! ### Main statement -/

/-- **The store takes just the well-typed records.** To any other it makes one objection, which
names the table and the column that it is about: to the first field that is not right or, if all
fields are, for the first required column that is not set. Where no two columns share a name, a
record that is taken has a value of its type for every required column, and NULL in no column that
is not nullable. -/
theorem wellTyped_decided (table : Table) (record : Record) :
    (table.verify record = .ok () ↔ table.WellTyped record) ∧
    (∀ error, table.verify record = .error error ↔ ∃ name, table.Refusal record name error) ∧
    (∀ name error, table.Refusal record name error → error.place? = some (table.name, name)) ∧
    ((table.columns.map Column.name).Nodup → table.verify record = .ok () →
      (∀ column ∈ table.required, ∃ value,
        record.get? column.name = some value ∧ value ≠ .null ∧ column.type.Holds value) ∧
      ∀ column ∈ table.columns, column.nullable = false →
        record.get? column.name ≠ some .null) := by
  refine ⟨Table.verify_eq_ok_iff_wellTyped, fun _ => Table.verify_eq_error_iff,
    fun _ _ => Table.Refusal.place, fun distinct accepted => ?_⟩
  have typed := Table.verify_eq_ok_iff_wellTyped.mp accepted
  constructor
  · intro column required
    obtain ⟨member, strict, -⟩ := Table.mem_required_iff.mp required
    obtain ⟨value, given⟩ := Record.mem_columns_iff.mp (typed.required column required)
    rcases typed.holds distinct member given with ⟨-, nullable⟩ | holds
    · rw [strict] at nullable
      cases nullable
    · exact ⟨value, given, holds.ne_null, holds⟩
  · intro column member strict given
    rcases typed.holds distinct member given with ⟨-, nullable⟩ | holds
    · rw [strict] at nullable
      cases nullable
    · exact holds.ne_null rfl

/-- A dog of the demonstration table. -/
def Demo.rex : Record := (Record.empty.set "name" (.text "Rex")).set "type" (.enumerant "DOG")

/-- Rex can be stored, so its name is a text; with a number for its type it is refused. -/
theorem wellTyped_decided_rex :
    (Demo.pets.columns.map Column.name).Nodup ∧ Demo.pets.verify Demo.rex = .ok () ∧
    (∀ column ∈ Demo.pets.required, ∃ value, Demo.rex.get? column.name = some value ∧
      value ≠ .null ∧ column.type.Holds value) ∧
    ∃ name, Demo.pets.Refusal (Demo.rex.set "type" (.integer 4)) name
      (.typeMismatch "pets" "type" "enum" "int") := by
  obtain ⟨-, -, -, distinct⟩ := wellTyped_decided Demo.pets Demo.rex
  obtain ⟨-, refusals, -⟩ := wellTyped_decided Demo.pets (Demo.rex.set "type" (.integer 4))
  have names : (Demo.pets.columns.map Column.name).Nodup := by decide
  have accepted : Demo.pets.verify Demo.rex = .ok () := by decide
  exact ⟨names, accepted, (distinct names accepted).1, (refusals _).mp (by decide)⟩

end Seeding
