/-
**What a generator draws fits its column.**

A generator is checked against a column when it is declared, before anything is drawn, and a store
checks each value again when a row is inserted. `sample_fits` joins the two: a value that a checked
generator draws passes the check of the store, from every state of the source. For each kind of
generator there is one fact about its draws (a length of a range is at most its longest, a choice is
one of the names, a share of zero never hits) and one equivalence that says what its check asks for.
-/
import Seeding.Generator.Check
import Seeding.Proofs.Generator.Ranges
import Seeding.Store.Rules

namespace Seeding

/-! ### Values of texts and choices in their columns -/

/-- A type for free text with room for so many characters. -/
def ColumnType.HasRoom (type : ColumnType) (most : Nat) : Prop :=
  type = .text ∨ ∃ limit, type = .varchar limit ∧ most ≤ limit

theorem ColumnType.HasRoom.mono {type : ColumnType} {few most : Nat} (room : type.HasRoom most)
    (fewer : few ≤ most) : type.HasRoom few := by
  rcases room with text | ⟨limit, varchar, enough⟩
  · exact Or.inl text
  · exact Or.inr ⟨limit, varchar, Nat.le_trans fewer enough⟩

/-- A text can be stored exactly in a column with room for it. -/
theorem Column.verifyValue_text_iff {column : Column} {content : String} :
    column.verifyValue (.text content) = .ok () ↔ column.type.HasRoom content.length := by
  unfold Column.verifyValue ColumnType.HasRoom
  cases column.type with
  | varchar limit =>
    by_cases long : limit < content.length
    · simp [long]
    · simp [long, Nat.not_lt.mp long]
  | _ => simp

/-- A choice can be stored in an enumeration exactly if it belongs to the domain and keeps to the
limit. -/
theorem Column.verifyValue_enumerant_iff {column : Column} {name : String} {limit : Nat}
    {domain : List String} (type : column.type = .enumeration limit domain) :
    column.verifyValue (.enumerant name) = .ok () ↔ name ∈ domain ∧ name.length ≤ limit := by
  unfold Column.verifyValue
  rw [type]
  by_cases long : limit < name.length
  · simp [long]
  · by_cases inside : name ∈ domain <;> simp [long, inside, Nat.not_lt.mp long]

/-! ### What the draws give -/

variable {σ : Type} [WordSource σ]

/-- A length that is drawn is at most the longest of its range. -/
theorem LengthRange.draw_le (range : LengthRange) (source : σ) :
    (range.draw source).1 ≤ range.most.toNat := by
  rw [range.draw_eq]
  exact range.length_le _

/-- A choice that is drawn is one of the names. -/
theorem Choices.draw_mem (choices : Choices) (source : σ) :
    (choices.draw source).1 ∈ choices.names :=
  List.getElem_mem _

/-- A share of zero never hits. -/
theorem Percent.hits_zero {share : Percent} (zero : share.val = 0) (source : σ) :
    (share.hits source).1 = false := by
  have same : share = 0 := Fin.ext zero
  subst same
  have threshold : Percent.threshold 0 = 0 := by decide
  simp [Percent.hits, threshold]

namespace Generator

/-- The number of random characters is the number that was asked for. -/
theorem length_letters (count : Nat) (source : σ) : (letters count source).1.length = count := by
  induction count generalizing source with
  | zero => rfl
  | succ count ih => simp [letters, ih]

/-! ### What the checks rule out -/

/-- There is no misfit exactly if all choices belong to the domain and keep to the limit. -/
theorem misfit?_eq_none_iff {limit : Nat} {domain names : List String} :
    misfit? limit domain names = none ↔ ∀ name ∈ names, name ∈ domain ∧ name.length ≤ limit := by
  induction names with
  | nil => simp [misfit?]
  | cons name rest ih =>
    rw [misfit?, List.forall_mem_cons, ← ih]
    by_cases inside : name ∈ domain
    · by_cases long : limit < name.length
      · simp [inside, long, Nat.not_le.mpr long]
      · simp [inside, long, Nat.not_lt.mp long]
    · simp [inside]

/-- A generator that is not optional is checked for an obstacle in the type of its column. -/
theorem check_plain_iff {generator : Generator} {column : Column}
    (plain : generator.kind ≠ .optional) :
    generator.check column = .ok () ↔ generator.obstacle? column.type = none := by
  cases generator with
  | optional share inner => exact absurd rfl plain
  | _ =>
    unfold check
    split
    · simp [*]
    · simp [*]

/-- An optional generator needs a column that may hold NULL, unless its share is zero, and passes
what is left of the check to the generator inside. -/
theorem check_optional_iff {share : Percent} {inner : Generator} {column : Column} :
    (optional share inner).check column = .ok () ↔
      (0 < share.val → column.nullable = true) ∧ inner.check column = .ok () := by
  rw [check]
  by_cases positive : 0 < share.val
  · cases nullable : column.nullable <;> simp [positive]
  · simp [positive]

/-- The largest number of characters that a generator of texts draws. -/
def longest? : Generator → Option Nat
  | .string lengths => some lengths.most.toNat
  | .name limit => some limit
  | _ => none

/-- A generator of texts meets no obstacle exactly in a type with room for the longest of them. -/
theorem obstacle?_text_iff {generator : Generator} {type : ColumnType} {most : Nat}
    (longest : generator.longest? = some most) :
    generator.obstacle? type = none ↔ type.HasRoom most := by
  unfold ColumnType.HasRoom
  cases type <;> cases generator <;> simp_all [longest?, obstacle?]

/-! ### Main statement -/

/-- **What a checked generator draws can be stored in its column**, whatever the source gives. -/
theorem sample_fits {generator : Generator} {column : Column}
    (checked : generator.check column = .ok ()) (source : σ) :
    column.verifyValue (generator.sample source).1 = .ok () := by
  induction generator generalizing source with
  | string lengths =>
    have free := (check_plain_iff (by simp [kind])).mp checked
    refine Column.verifyValue_text_iff.mpr (((obstacle?_text_iff rfl).mp free).mono ?_)
    rw [String.length_ofList, length_letters]
    exact lengths.draw_le source
  | enumeration choices =>
    have free := (check_plain_iff (by simp [kind])).mp checked
    cases type : column.type with
    | enumeration limit domain =>
      rw [type] at free
      have fits := misfit?_eq_none_iff.mp free _ (choices.draw_mem source)
      exact (Column.verifyValue_enumerant_iff type).mpr fits
    | _ => simp [type, obstacle?] at free
  | integer range =>
    have free := (check_plain_iff (by simp [kind])).mp checked
    cases type : column.type with
    | bigint => simp [sample, Column.verifyValue, type]
    | _ => simp [type, obstacle?] at free
  | name limit =>
    have free := (check_plain_iff (by simp [kind])).mp checked
    simp only [sample, State.bind_apply, State.pure_apply]
    refine Column.verifyValue_text_iff.mpr (((obstacle?_text_iff rfl).mp free).mono ?_)
    rw [String.length_ofList]
    exact List.length_take_le _ _
  | optional share inner ih =>
    obtain ⟨nullable, checked⟩ := check_optional_iff.mp checked
    cases hit : (share.hits source).1 with
    | true =>
      have positive : 0 < share.val := Nat.pos_of_ne_zero fun zero => by
        rw [Percent.hits_zero zero] at hit
        cases hit
      simp [sample, hit, Column.verifyValue, nullable positive]
    | false =>
      simp only [sample, State.bind_apply, hit]
      exact ih checked (share.hits source).2

end Generator

end Seeding
