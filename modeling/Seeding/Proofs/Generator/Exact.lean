/-
**The checks of declarations are exact.**

A checked generator draws nothing that its column cannot hold (`sample_fits`). Here is the converse:
a generator that is refused could have drawn such a value from some tape. A string generator is
refused for the longest of its strings, a choice for one of the names, an optional generator for NULL
or for a value of the generator inside. That a value can be drawn at all is a fact about the words of
a tape: the words of a string were counted (`exists_returns_string`), a share above zero hits with the
least word, and a share below a hundred leaves the largest word to the generator inside, whose own
words may then follow (`ahead_sample`).

Main statement: `checks_exact`.
-/
import Seeding.Proofs.Random.Ahead
import Seeding.Proofs.Generator.Fair
import Seeding.Proofs.Generator.Strings
import Seeding.Proofs.Plan.Rows

namespace Seeding

open Tape

/-! ### Shares of words -/

namespace Percent

/-- A share hits with the least word exactly if it is above zero. -/
theorem threshold_pos_iff : ∀ share : Percent, 0 < share.threshold ↔ 0 < share.val := by
  decide +kernel

/-- A share below a hundred does not hit with the largest word. -/
theorem threshold_lt : ∀ share : Percent, share.val < 100 → share.threshold < UInt64.size := by
  decide +kernel

end Percent

namespace Generator

variable {share : Percent} {inner : Generator} {column : Column} {value : Value}

/-! ### What can be drawn -/

/-- From the start of some tape the generator draws the value. -/
def CanDraw (generator : Generator) (value : Value) : Prop :=
  ∃ words last, Returns generator.sample words 0 value last

/-- The check accepts the generators that draw nothing but what the column can hold, and no other. -/
def Exact (generator : Generator) (column : Column) : Prop :=
  generator.check column = .ok () ↔
    ∀ value, generator.CanDraw value → column.verifyValue value = .ok ()

theorem CanDraw.exists_eq {generator : Generator} (drawn : generator.CanDraw value) :
    ∃ tape : Tape, (generator.sample tape).1 = value := by
  obtain ⟨_, _, returns⟩ := drawn
  exact returns.exists_eq

/-- A checked generator draws nothing that its column cannot hold. -/
theorem CanDraw.fits {generator : Generator} (drawn : generator.CanDraw value)
    (checked : generator.check column = .ok ()) : column.verifyValue value = .ok () := by
  obtain ⟨tape, rfl⟩ := drawn.exists_eq
  exact sample_fits checked tape

/-- So a check is exact if it refuses only what could draw a value that the column cannot hold. -/
theorem exact_of_complete {generator : Generator}
    (complete : (∀ value, generator.CanDraw value → column.verifyValue value = .ok ()) →
      generator.check column = .ok ()) : generator.Exact column :=
  ⟨fun checked _ drawn => drawn.fits checked, complete⟩

/-! ### Strings -/

/-- One of the longest strings. -/
def longest (lengths : LengthRange) : String := String.ofList (List.replicate lengths.most.toNat 'A')

theorem canDraw_longest (lengths : LengthRange) :
    (string lengths).CanDraw (.text (longest lengths)) := by
  have ordered := lengths.least_le_most
  have letters : ∀ character ∈ List.replicate lengths.most.toNat 'A', IsLetter character := by
    intro character member
    rw [List.eq_of_mem_replicate member]
    exact Or.inl (by decide)
  exact exists_returns_string (ordered.trans_eq List.length_replicate.symm)
    (Nat.le_of_eq List.length_replicate) letters

/-- A string generator is accepted exactly if the column can hold its longest strings. -/
theorem check_string_iff {lengths : LengthRange} :
    (string lengths).check column = .ok () ↔
      column.verifyValue (.text (longest lengths)) = .ok () := by
  have length : (longest lengths).length = lengths.most.toNat := by
    rw [longest, String.length_ofList, List.length_replicate]
  rw [check_plain_iff (by simp [kind]), Column.verifyValue_text_iff, length]
  exact obstacle?_text_iff rfl

/-- **The check of strings is exact**, for columns of every type. -/
theorem exact_string (lengths : LengthRange) (column : Column) : (string lengths).Exact column := by
  refine exact_of_complete fun holds => check_string_iff.mpr ?_
  exact holds _ (canDraw_longest lengths)

/-! ### Choices -/

/-- **Choices are accepted exactly if the enumeration can hold each of them.** -/
theorem check_choices_iff {choices : Choices} {limit : Nat} {domain : List String}
    (type : column.type = .enumeration limit domain) :
    (enumeration choices).check column = .ok () ↔
      ∀ name ∈ choices.names, column.verifyValue (.enumerant name) = .ok () := by
  rw [check_plain_iff (by simp [kind]), type, obstacle?, misfit?_eq_none_iff]
  simp only [Column.verifyValue_enumerant_iff type]

/-- Each of the choices can be drawn, if there are no more of them than words. -/
theorem canDraw_choice {choices : Choices} {name : String} (member : name ∈ choices.names)
    (few : choices.names.length ≤ UInt64.size) :
    (enumeration choices).CanDraw (.enumerant name) := by
  have named : (sample (enumeration choices) : StateM Tape Value) =
      Value.enumerant <$> choices.draw := rfl
  have injective : Function.Injective Value.enumerant := fun _ _ => Value.enumerant.inj
  obtain ⟨index, below, same⟩ := List.mem_iff_getElem.mp member
  obtain ⟨word, accepted⟩ := Uniform.exists_accepted few ⟨index, below⟩
  let words : Nat → UInt64 := fun _ => word
  have place : Returns choices.place words 0 ⟨index, below⟩ 1 :=
    (Uniform.Settles.accept accepted).returns
  refine ⟨words, 1, ?_⟩
  rw [named, returns_map_iff injective]
  exact ⟨name, rfl, choices.returns_draw_iff.mpr ⟨⟨index, below⟩, same, place⟩⟩

/-- **The check of choices is exact** for enumerations. -/
theorem exact_choices {choices : Choices} {limit : Nat} {domain : List String}
    (type : column.type = .enumeration limit domain) (few : choices.names.length ≤ UInt64.size) :
    (enumeration choices).Exact column := by
  refine exact_of_complete fun holds => (check_choices_iff type).mpr ?_
  intro name member
  exact holds _ (canDraw_choice member few)

/-! ### Optional generators -/

theorem ahead_letters (count : Nat) : Ahead (letters count) := by
  induction count with
  | zero => exact ahead_pure []
  | succ count ih =>
    exact Uniform.ahead_below64.bind fun _ => ih.bind fun _ => ahead_pure _

/-- **Every generator looks only ahead** on its tape. -/
theorem ahead_sample (generator : Generator) : Ahead generator.sample := by
  induction generator with
  | string lengths =>
    refine Ahead.bind ?_ fun count => (ahead_letters count).bind fun _ => ahead_pure _
    rw [lengths.draw_eq]
    exact Uniform.ahead_below64.bind fun _ => ahead_pure _
  | enumeration choices =>
    exact (Uniform.ahead_below64.bind fun _ => ahead_pure _).bind fun _ => ahead_pure _
  | integer range =>
    refine Ahead.bind ?_ fun _ => ahead_pure _
    rw [range.draw_eq]
    exact Uniform.ahead_below64.bind fun _ => ahead_pure _
  | name limit =>
    exact (Uniform.ahead_below32.bind fun _ => ahead_pure _).bind fun _ => ahead_pure _
  | optional share inner ih =>
    refine share.ahead_hits.bind fun hit => ?_
    cases hit with
    | true => exact ahead_pure Value.null
    | false => exact ih

/-- A share below a hundred looks at one word. Below the threshold NULL is drawn, else the generator
inside goes on behind the word. -/
theorem sample_optional_apply (partly : share.val < 100) (tape : Tape) :
    (optional share inner).sample tape =
      if (tape.words tape.place).toNat < share.threshold then (.null, tape.advance)
      else inner.sample tape.advance := by
  have drawn : share.hits tape =
      (decide ((tape.words tape.place).toNat < share.threshold), tape.advance) := by
    unfold Percent.hits
    rw [if_neg (Nat.ne_of_lt partly)]
    rfl
  rw [sample, State.bind_apply, drawn]
  by_cases hit : (tape.words tape.place).toNat < share.threshold
  · simp [hit]
  · simp [hit]

theorem returns_optional_of_hit (partly : share.val < 100) {words : Nat → UInt64} {place last : Nat}
    (hit : (words place).toNat < share.threshold) :
    Returns (optional share inner).sample words place value last ↔
      .null = value ∧ place + 1 = last := by
  have null : Returns (pure Value.null) words (place + 1) value last ↔
      .null = value ∧ place + 1 = last := returns_pure_iff
  rw [← null]
  unfold Returns
  simp only [sample_optional_apply partly, if_pos hit]
  rfl

theorem returns_optional_of_miss (partly : share.val < 100) {words : Nat → UInt64} {place last : Nat}
    (miss : ¬ (words place).toNat < share.threshold) :
    Returns (optional share inner).sample words place value last ↔
      Returns inner.sample words (place + 1) value last := by
  unfold Returns
  simp only [sample_optional_apply partly, if_neg miss]
  rfl

/-- **What an optional generator can draw**, unless it draws nothing but NULL. -/
theorem canDraw_optional_iff (partly : share.val < 100) :
    (optional share inner).CanDraw value ↔
      (value = .null ∧ 0 < share.val) ∨ inner.CanDraw value := by
  constructor
  · rintro ⟨words, last, returns⟩
    by_cases hit : (words 0).toNat < share.threshold
    · have positive : 0 < share.val := (Percent.threshold_pos_iff share).mp (Nat.zero_lt_of_lt hit)
      exact Or.inl ⟨((returns_optional_of_hit partly hit).mp returns).1.symm, positive⟩
    · have behind := (returns_optional_of_miss partly hit).mp returns
      rw [← preceded_tail words] at behind
      exact Or.inr ⟨_, ((ahead_sample inner).returns_iff (words 0)).mp ⟨last, behind⟩⟩
  · rintro (⟨rfl, positive⟩ | ⟨words, drawn⟩)
    · let least : Nat → UInt64 := fun _ => 0
      have hit : (least 0).toNat < share.threshold := (Percent.threshold_pos_iff share).mpr positive
      exact ⟨least, 1, (returns_optional_of_hit partly hit).mpr ⟨rfl, rfl⟩⟩
    · -- the largest word does not hit, so the words of the generator inside may follow it
      let largest := UInt64.ofNat (UInt64.size - 1)
      have miss : ¬ (preceded largest words 0).toNat < share.threshold :=
        Nat.not_lt.mpr (Nat.le_pred_of_lt (share.threshold_lt partly))
      obtain ⟨last, behind⟩ := ((ahead_sample inner).returns_iff largest).mpr drawn
      exact ⟨preceded largest words, last, (returns_optional_of_miss partly miss).mpr behind⟩

/-- NULL is drawn by a share above zero, or by the generator inside. -/
theorem canDraw_null_iff (partly : share.val < 100) :
    (optional share inner).CanDraw .null ↔ 0 < share.val ∨ inner.CanDraw .null := by
  simp [canDraw_optional_iff partly]

/-- Only optional generators draw NULL. -/
theorem not_canDraw_null (plain : inner.kind ≠ .optional) : ¬ inner.CanDraw .null := by
  intro drawn
  obtain ⟨tape, same⟩ := drawn.exists_eq
  cases inner with
  | optional share inner => exact plain rfl
  | _ => simp [sample] at same

/-- **An exact check stays exact when NULL is drawn for a share of the rows.** -/
theorem Exact.optional (inside : inner.Exact column) (partly : share.val < 100) :
    (Generator.optional share inner).Exact column := by
  have null : column.verifyValue .null = .ok () ↔ column.nullable = true := by
    cases nullable : column.nullable <;> simp [Column.verifyValue, nullable]
  unfold Exact at inside ⊢
  rw [check_optional_iff, inside, ← null]
  simp only [canDraw_optional_iff partly, or_imp, forall_and, and_imp, forall_eq]

end Generator

/-! ### Main statement -/

/-- **The checks of declarations are exact.** A string generator is accepted for a column of any type
exactly if the column can hold all that it can draw, and choices are accepted for an enumeration
exactly if it can hold each of them. An optional generator with a share below a hundred keeps an
exact check exact; it can draw NULL if its share is above zero or the generator inside can draw NULL,
which none but an optional one can. -/
theorem checks_exact :
    (∀ lengths column, (Generator.string lengths).Exact column) ∧
    (∀ (choices : Choices) (column : Column) (limit : Nat) (domain : List String),
      column.type = .enumeration limit domain →
        ((Generator.enumeration choices).check column = .ok () ↔
          ∀ name ∈ choices.names, column.verifyValue (.enumerant name) = .ok ())) ∧
    ∀ (share : Percent) (inner : Generator), share.val < 100 →
      (∀ column, inner.Exact column → (Generator.optional share inner).Exact column) ∧
      ((Generator.optional share inner).CanDraw .null ↔ 0 < share.val ∨ inner.CanDraw .null) ∧
      (inner.kind ≠ .optional →
        ((Generator.optional share inner).CanDraw .null ↔ 0 < share.val)) := by
  refine ⟨Generator.exact_string, fun choices column limit domain => Generator.check_choices_iff,
    fun share inner partly => ?_⟩
  have null : (Generator.optional share inner).CanDraw .null ↔
      0 < share.val ∨ inner.CanDraw .null := Generator.canDraw_null_iff partly
  refine ⟨fun column inside => inside.optional partly, null, fun plain => ?_⟩
  rw [null, or_iff_left (Generator.not_canDraw_null plain)]

/-- Breeds that may be unknown are refused for a column that has to hold one, and could indeed draw
a value that it cannot hold. -/
theorem checks_exact_breeds :
    (40 : Percent).val < 100 ∧
    (Generator.enumeration Kennel.breeds).check (Kennel.column "breed") = .ok () ∧
    (Generator.optional 40 (.enumeration Kennel.breeds)).CanDraw .null ∧
    (Generator.optional 40 (.enumeration Kennel.breeds)).check (Kennel.column "breed") ≠ .ok () := by
  obtain ⟨-, choices, optional⟩ := checks_exact
  have type : (Kennel.column "breed").type = .enumeration 6 ["POODLE", "PUG"] := rfl
  have accepted := (choices Kennel.breeds _ _ _ type).mpr (by decide)
  have inside : (Generator.enumeration Kennel.breeds).Exact (Kennel.column "breed") :=
    Generator.exact_choices type (by decide)
  obtain ⟨keeps, -, positive⟩ := optional 40 (.enumeration Kennel.breeds) (by decide)
  have null := (positive (by decide)).mpr (by decide)
  refine ⟨by decide, accepted, null, fun checked => ?_⟩
  exact absurd ((keeps _ inside).mp checked _ null) (by decide)

namespace Kennel

theorem half_percentage : 50 < 101 := by decide

theorem seven_ordered : (7 : Int64) ≤ 7 := Int64.le_refl 7

/-- An age that is unknown for half of the dogs, and seven for the others. -/
def ages : Generator := .optional ⟨50, half_percentage⟩ (.integer ⟨7, 7, seven_ordered⟩)

end Kennel

/-- A share of zero keeps the check of such ages exact, but draws the NULL of the generator inside. -/
theorem zero_share_draws_null :
    ¬ ((0 : Percent).val < 100 → Kennel.ages.Exact (Kennel.column "age") →
      (Generator.optional 0 Kennel.ages).Exact (Kennel.column "age") ∧
        ((Generator.optional 0 Kennel.ages).CanDraw .null ↔ 0 < (0 : Percent).val)) := by
  intro claimed
  have inside : Kennel.ages.Exact (Kennel.column "age") :=
    Generator.exact_of_complete fun _ => by decide
  have drawn : Kennel.ages.CanDraw .null :=
    (Generator.canDraw_null_iff (by decide)).mpr (Or.inl (by decide))
  have null : (Generator.optional 0 Kennel.ages).CanDraw .null :=
    (Generator.canDraw_null_iff (by decide)).mpr (Or.inr drawn)
  obtain ⟨-, only⟩ := claimed (by decide) inside
  exact absurd (only.mp null) (by decide)

end Seeding
