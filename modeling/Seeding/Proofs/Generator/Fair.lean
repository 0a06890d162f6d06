/-
**Integers and choices are drawn fairly.**

An integer is drawn by its offset in the range, a choice by its place in the list, and both are draws
below a size. An offset stands for one integer of the range and every integer of the range has an
offset, also where the range reaches both ends of the 64-bit integers (`IntegerRange.integer`).

Main statement: `integers_and_choices_fair`.
-/
import Seeding.Proofs.Generator.Ranges
import Seeding.Proofs.Random.Fair

namespace Seeding

open Tape

/-! ### Integers -/

namespace IntegerRange

variable {range : IntegerRange}

/-- In the range of all integers an offset has the bits of its integer. -/
theorem toInt_integer_of_all (all : range.size = UInt64.size) (offset : Fin range.size) :
    (range.integer offset).toInt % 2 ^ 64 = offset.val := by
  have below : offset.val < 2 ^ 64 := Nat.lt_of_lt_of_eq offset.isLt all
  have small : (offset.val : Int) % (2 ^ 64 : Nat) = offset.val := by omega
  unfold integer
  rw [if_pos all, Int64.toInt_ofInt]
  exact (Int.bmod_emod ..).trans small

/-- In any other range it is the distance from the least integer. -/
theorem toInt_integer_of_part (part : range.size ≠ UInt64.size) (offset : Fin range.size) :
    (range.integer offset).toInt = range.least.toInt + offset.val := by
  have below := offset.isLt
  have size := range.size_eq
  have least := range.least.le_toInt
  have most := range.most.toInt_lt
  unfold integer
  rw [if_neg part]
  exact Int64.toInt_ofInt_of_le (by omega) (by omega)

/-- Two offsets are two integers. -/
theorem integer_injective (range : IntegerRange) : range.integer.Injective := by
  intro first second same
  refine Fin.ext ?_
  by_cases all : range.size = UInt64.size
  · have left := toInt_integer_of_all all first
    have right := toInt_integer_of_all all second
    rw [same] at left
    omega
  · have left := toInt_integer_of_part all first
    have right := toInt_integer_of_part all second
    rw [same] at left
    omega

/-- **The integers of the offsets are those of the range.** -/
theorem exists_integer_iff (range : IntegerRange) (number : Int64) :
    range.least ≤ number ∧ number ≤ range.most ↔ ∃ offset, range.integer offset = number := by
  have size := range.size_eq
  have least := range.least.le_toInt
  have most := range.most.toInt_lt
  have low := number.le_toInt
  have high := number.toInt_lt
  rw [Int64.le_iff_toInt_le, Int64.le_iff_toInt_le]
  by_cases all : range.size = UInt64.size
  · have words : UInt64.size = 2 ^ 64 := rfl
    constructor
    · rintro -
      refine ⟨⟨(number.toInt % 2 ^ 64).toNat, by omega⟩, Int64.toInt_inj.mp ?_⟩
      have bits := toInt_integer_of_all all ⟨(number.toInt % 2 ^ 64).toNat, by omega⟩
      have low' := (range.integer ⟨(number.toInt % 2 ^ 64).toNat, by omega⟩).le_toInt
      have high' := (range.integer ⟨(number.toInt % 2 ^ 64).toNat, by omega⟩).toInt_lt
      simp only at bits
      omega
    · rintro -
      omega
  · constructor
    · rintro ⟨above, below⟩
      refine ⟨⟨(number.toInt - range.least.toInt).toNat, by omega⟩, Int64.toInt_inj.mp ?_⟩
      rw [toInt_integer_of_part all]
      simp only
      omega
    · rintro ⟨offset, rfl⟩
      have below := offset.isLt
      rw [toInt_integer_of_part all]
      omega

/-- **An integer of a range is drawn fairly.** -/
theorem fair (range : IntegerRange) :
    Fair range.draw (fun number => range.least ≤ number ∧ number ≤ range.most)
      (Uniform.wordsEach range.size) := by
  rw [range.draw_eq]
  exact (fair_below64 range.size_pos range.size_le).map range.integer_injective
    range.exists_integer_iff

end IntegerRange

/-! ### Choices -/

namespace Choices

theorem length_pos (choices : Choices) : 0 < choices.names.length :=
  List.length_pos_iff.mpr choices.nonempty

/-- The draw of the place of a choice. -/
def place (choices : Choices) : StateM Tape (Fin choices.names.length) :=
  Uniform.below64 choices.names.length choices.length_pos

/-- A choice is drawn by its place. -/
theorem returns_draw_iff (choices : Choices) {words : Nat → UInt64} {start last : Nat}
    {name : String} :
    Returns choices.draw words start name last ↔
      ∃ index, choices.names.get index = name ∧ Returns choices.place words start index last := by
  have split : (choices.draw : StateM Tape String) =
      choices.place >>= fun index => pure (choices.names.get index) := rfl
  rw [split, place, Uniform.returns_below64_bind fun _ => forward_pure _]
  constructor
  · rintro ⟨index, middle, settles, ended⟩
    obtain ⟨rfl, rfl⟩ := returns_pure_iff.mp ended
    exact ⟨index, rfl, settles.returns⟩
  · rintro ⟨index, rfl, returns⟩
    exact ⟨index, last, Uniform.returns_below64_iff.mp returns, returns_pure_iff.mpr ⟨rfl, rfl⟩⟩

end Choices

/-! ### Main statement -/

/-- **Integers and choices are drawn fairly.** An integer that is drawn lies in its range, a choice
is the one at a place of its list. Each integer of the range, or each place of the list, is drawn
from the same number of words: two to the number of leading zeros of the size, and one if every
64-bit integer is in the range. All other words, no more than half of them, are rejected, and the
draw goes on with the next word. -/
theorem integers_and_choices_fair :
    (∀ range : IntegerRange,
      Fair range.draw (fun number => range.least ≤ number ∧ number ≤ range.most)
        (Uniform.wordsEach range.size)) ∧
    ∀ choices : Choices, choices.names.length < 2 ^ 64 →
      Fair choices.place (fun _ => True) (Uniform.wordsEach choices.names.length) ∧
      ∀ words start name last, Returns choices.draw words start name last ↔
        ∃ index, choices.names.get index = name ∧ Returns choices.place words start index last :=
  ⟨IntegerRange.fair, fun choices few =>
    ⟨fair_below64 choices.length_pos (Nat.le_of_lt few),
      fun _ _ _ _ => choices.returns_draw_iff⟩⟩

namespace Kennel

theorem breeds_nonempty : ["PUG", "POODLE"] ≠ [] := List.cons_ne_nil _ _

/-- The breeds of dogs. -/
def breeds : Choices := ⟨["PUG", "POODLE"], breeds_nonempty⟩

theorem integers_ordered : Int64.minValue ≤ Int64.maxValue := by decide

/-- All integers. -/
def integers : IntegerRange := ⟨Int64.minValue, Int64.maxValue, integers_ordered⟩

end Kennel

/-- A quarter of all words stands for each of two breeds, and one word for each of all integers. -/
theorem integers_and_choices_fair_breeds :
    Kennel.breeds.names.length < 2 ^ 64 ∧
    Fair Kennel.breeds.place (fun _ => True) (2 ^ 62) ∧
    Fair Kennel.integers.draw
      (fun number => Int64.minValue ≤ number ∧ number ≤ Int64.maxValue) 1 := by
  obtain ⟨integers, choices⟩ := integers_and_choices_fair
  have few : Kennel.breeds.names.length < 2 ^ 64 := by decide
  have two : Uniform.wordsEach Kennel.breeds.names.length = 2 ^ 62 := by decide
  have all : Uniform.wordsEach Kennel.integers.size = 1 := by decide
  exact ⟨few, two ▸ (choices Kennel.breeds few).1, all ▸ integers Kennel.integers⟩

end Seeding
