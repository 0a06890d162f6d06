/-
**Records in JSON.**

A record is written as an object with a field for each column. `Record.Decoded` says what an object
has to be for it to tell the record: its names are the columns in their order and none twice, a
string stands for a text or a value of an enumeration with these characters, a whole number for this
integer and a null for NULL. Records whose values differ only in being a text or a value of an
enumeration are written alike (`Record.Alike`), and no others.

Main statement: `records_written`, for every record and for any two.
-/
import Seeding.Proofs.Json.Document
import Seeding.Proofs.Record

namespace Seeding

/-! ### Values -/

namespace Value

/-- Values that are the same, except that one may be a text and the other a value of an enumeration
with the same characters. -/
inductive Alike : Value → Value → Prop
  | same (value : Value) : Alike value value
  | text (content : String) : Alike (.text content) (.enumerant content)
  | enumerant (content : String) : Alike (.enumerant content) (.text content)

variable {value first second : Value} {content : String} {number : Int}

theorem toJson_eq_string_iff :
    value.toJson = .string content ↔ value = .text content ∨ value = .enumerant content := by
  cases value <;> simp [toJson]

theorem toJson_eq_integer_iff :
    value.toJson = .integer number ↔ ∃ stored, value = .integer stored ∧ stored.toInt = number := by
  cases value <;> simp [toJson]

theorem toJson_eq_null_iff : value.toJson = .null ↔ value = .null := by
  cases value <;> simp [toJson]

theorem toJson_eq_iff : first.toJson = second.toJson ↔ Alike first second := by
  constructor
  · intro same
    cases second with
    | text content =>
      rcases toJson_eq_string_iff.mp same with rfl | rfl
      · exact .same _
      · exact .enumerant content
    | enumerant content =>
      rcases toJson_eq_string_iff.mp same with rfl | rfl
      · exact .text content
      · exact .same _
    | integer number =>
      obtain ⟨stored, rfl, equal⟩ := toJson_eq_integer_iff.mp same
      rw [Int64.toInt_inj.mp equal]
      exact .same _
    | null =>
      rw [toJson_eq_null_iff.mp same]
      exact .same _
  · rintro (_ | _ | _) <;> rfl

end Value

/-! ### Records -/

namespace Record

/-- An object that tells a record. -/
structure Decoded (record : Record) (fields : List (String × Json)) : Prop where
  columns : fields.map Prod.fst = record.columns
  distinct : (fields.map Prod.fst).Nodup
  string : ∀ name content, (name, .string content) ∈ fields ↔
    record.get? name = some (.text content) ∨ record.get? name = some (.enumerant content)
  integer : ∀ name number, (name, .integer number) ∈ fields ↔
    ∃ stored : Int64, record.get? name = some (.integer stored) ∧ stored.toInt = number
  null : ∀ name, (name, .null) ∈ fields ↔ record.get? name = some .null

/-- Records with the same columns in the same order and values that are alike. -/
structure Alike (first second : Record) : Prop where
  columns : first.columns = second.columns
  values : ∀ name, Option.Rel Value.Alike (first.get? name) (second.get? name)

/-- The fields of a record in JSON. -/
def jsonFields (record : Record) : List (String × Json) :=
  record.fields.map fun field => (field.1, field.2.toJson)

variable {record first second : Record}

theorem mem_jsonFields {name : String} {written : Json} :
    (name, written) ∈ record.jsonFields ↔
      ∃ value, record.get? name = some value ∧ value.toJson = written := by
  simp only [jsonFields, List.mem_map, Prod.mk.injEq, Prod.exists, get?_eq_some_iff]
  constructor
  · rintro ⟨_, value, member, rfl, same⟩
    exact ⟨value, member, same⟩
  · rintro ⟨value, member, same⟩
    exact ⟨name, value, member, rfl, same⟩

theorem names_jsonFields (record : Record) : record.jsonFields.map Prod.fst = record.columns := by
  rw [jsonFields, List.map_map]
  rfl

/-- What a record is written as tells it. -/
theorem decoded_jsonFields (record : Record) : record.Decoded record.jsonFields where
  columns := record.names_jsonFields
  distinct := record.names_jsonFields ▸ record.distinct
  string name content := by
    simp only [mem_jsonFields, Value.toJson_eq_string_iff, and_or_left, exists_or,
      exists_eq_right]
  integer name number := by
    simp only [mem_jsonFields, Value.toJson_eq_integer_iff]
    constructor
    · rintro ⟨_, found, stored, rfl, same⟩
      exact ⟨stored, found, same⟩
    · rintro ⟨stored, found, same⟩
      exact ⟨_, found, stored, rfl, same⟩
  null name := by simp only [mem_jsonFields, Value.toJson_eq_null_iff, exists_eq_right]

/-- The fields are told by the columns and their values. -/
theorem jsonFields_eq (record : Record) : record.jsonFields = record.columns.map fun name =>
    (name, ((record.get? name).map Value.toJson).getD .null) := by
  rw [jsonFields, fields_eq, List.map_map]
  refine List.map_congr_left fun name _ => ?_
  exact congrArg (Prod.mk name) (Option.getD_map Value.toJson .null (record.get? name)).symm

/-- Records are written alike exactly if they are alike. -/
theorem toJson_eq_iff : first.toJson = second.toJson ↔ Alike first second := by
  constructor
  · intro same
    have fields : first.jsonFields = second.jsonFields := Json.object.inj same
    have columns : first.columns = second.columns := by
      rw [← names_jsonFields, fields, names_jsonFields]
    refine ⟨columns, fun name => ?_⟩
    cases here : first.get? name with
    | none =>
      have absent : second.get? name = none := by
        rw [get?_eq_none_iff, ← columns]
        exact get?_eq_none_iff.mp here
      rw [absent]
      exact .none
    | some value =>
      have written : (name, value.toJson) ∈ second.jsonFields :=
        fields ▸ mem_jsonFields.mpr ⟨value, here, rfl⟩
      obtain ⟨value', there, alike⟩ := mem_jsonFields.mp written
      rw [there]
      exact .some (Value.toJson_eq_iff.mp alike.symm)
  · intro alike
    refine congrArg Json.object (?_ : first.jsonFields = second.jsonFields)
    rw [jsonFields_eq, jsonFields_eq, alike.columns]
    refine List.map_congr_left fun name _ => ?_
    have values := alike.values name
    generalize first.get? name = here, second.get? name = there at values
    rcases values with same | _
    · exact congrArg (Prod.mk name) (Value.toJson_eq_iff.mpr same)
    · rfl

end Record

/-- **Records are written faithfully.** The text of a record is read as an object that tells it: the
names are its columns in their order, each once, with their strings, integers and nulls, and nothing
else is read as them. No character of the text lies below the space, so it does not span lines. Two
records have the same text exactly if they have the same columns in the same order and values that
are the same up to the difference between a text and a value of an enumeration. -/
theorem records_written :
    (∀ record : Record, ∃ fields, Json.read? record.toJson.render = some (.object fields) ∧
      record.Decoded fields) ∧
    (∀ record : Record, Json.Printable record.toJson.render.toList) ∧
    ∀ first second : Record,
      first.toJson.render = second.toJson.render ↔ Record.Alike first second :=
  ⟨fun record => ⟨record.jsonFields, Json.read_render record.toJson, record.decoded_jsonFields⟩,
    fun record => Json.printable_render record.toJson,
    fun _ _ => Json.render_inj.trans Record.toJson_eq_iff⟩

example : ((Record.empty.set "a\n" (.text "-1")).set "b" (.integer (-1))).toJson.render =
    "\x7b\"a\\n\":\"-1\",\"b\":-1\x7d" := by decide +kernel

end Seeding
