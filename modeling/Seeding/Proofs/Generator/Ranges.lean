/-
**Draws of generators as draws below a size and between words.**

A length and an integer are drawn as words between two bounds. Such a draw is a draw below the
number of values (`between64_eq`), so it gives an offset, and the offset stands for the value at this
distance from the least; only where the range holds all integers, it has the bits of its value
(`LengthRange.draw_eq`, `IntegerRange.draw_eq`). The other way round, the place of a choice, of a
character or of a first name in its list is drawn as a word from zero on (`Choices.draw_eq_between`,
`letters_succ_eq_between`, `firstNameDraw_eq_between`).
-/
import Seeding.Generator.Draw
import Seeding.Proofs.Random.Between

namespace Seeding

open Seeding.Uniform

variable {σ : Type} [WordSource σ]

/-! ### Lengths -/

namespace LengthRange

variable (range : LengthRange)

/-- The number of lengths in the range. -/
def size : Nat := range.most.toNat - range.least.toNat + 1

theorem size_pos : 0 < range.size := Nat.succ_pos _

theorem least_le_most : range.least.toNat ≤ range.most.toNat :=
  UInt64.le_iff_toNat_le.mp range.ordered

/-- The lengths of the range are those from the least on. -/
theorem size_eq : range.least.toNat + range.size = range.most.toNat + 1 := by
  have ordered := range.least_le_most
  unfold size
  omega

theorem size_le : range.size ≤ UInt64.size := by
  have size := range.size_eq
  have most := range.most.toNat_lt
  have words : UInt64.size = 18446744073709551616 := rfl
  omega

/-- The length at an offset. -/
def length (offset : Fin range.size) : Nat := range.least.toNat + offset.val

theorem length_le (offset : Fin range.size) : range.length offset ≤ range.most.toNat := by
  have size := range.size_eq
  have below := offset.isLt
  unfold length
  omega

theorem span_eq :
    span range.least.toBitVec range.most.toBitVec = BitVec.ofNat 64 range.size := by
  have ordered := range.least_le_most
  have below := range.most.toNat_lt
  have most : range.most.toBitVec = range.least.toBitVec +
      BitVec.ofNat 64 (range.most.toNat - range.least.toNat) := by
    apply BitVec.eq_of_toNat_eq
    rw [BitVec.toNat_add, BitVec.toNat_ofNat, UInt64.toNat_toBitVec, UInt64.toNat_toBitVec]
    omega
  rw [most, span_add]
  rfl

/-- The word at an offset is the length there. -/
theorem toNat_valueAt (offset : Fin range.size) :
    (valueAt range.least.toBitVec range.size offset.val).toNat = range.length offset := by
  have size := range.size_eq
  have most := range.most.toNat_lt
  have inside := offset.isLt
  unfold length valueAt
  by_cases all : range.size = Nat.pow 2 64
  · -- then the shortest length is zero
    have words : Nat.pow 2 64 = 18446744073709551616 := rfl
    rw [if_pos all, BitVec.toNat_ofNat]
    omega
  · rw [if_neg all, BitVec.toNat_add, BitVec.toNat_ofNat, UInt64.toNat_toBitVec]
    omega

/-- **A length is drawn by its offset.** -/
theorem draw_eq :
    (range.draw : StateM σ Nat) = range.length <$> below64 range.size range.size_pos := by
  have between : (between bits64 range.least.toBitVec range.most.toBitVec : StateM σ _) = _ :=
    between64_eq range.size_pos range.size_le range.span_eq
  funext source
  unfold draw
  rw [between]
  exact Prod.ext (range.toNat_valueAt _) rfl

end LengthRange

/-! ### Integers -/

namespace IntegerRange

variable (range : IntegerRange)

/-- The number of integers in the range. -/
def size : Nat := (range.most.toInt - range.least.toInt).toNat + 1

theorem size_pos : 0 < range.size := Nat.succ_pos _

/-- The size is the number of integers between the bounds, counted without a bound of its own. -/
theorem size_eq : (range.size : Int) = range.most.toInt - range.least.toInt + 1 := by
  have ordered := Int64.le_iff_toInt_le.mp range.ordered
  unfold size
  omega

theorem size_le : range.size ≤ UInt64.size := by
  have size := range.size_eq
  have least := range.least.le_toInt
  have most := range.most.toInt_lt
  have words : UInt64.size = 18446744073709551616 := rfl
  omega

/-- The integer of an offset. -/
def integer (offset : Fin range.size) : Int64 :=
  Int64.ofInt (if range.size = UInt64.size then offset.val else range.least.toInt + offset.val)

/-- The bits of a sum are the sum of the bits. -/
theorem ofInt_add (number : Int64) (offset : Nat) :
    BitVec.ofInt 64 (number.toInt + offset) = number.toBitVec + BitVec.ofNat 64 offset := by
  have same : BitVec.ofInt 64 number.toInt = number.toBitVec := BitVec.ofInt_toInt
  rw [BitVec.ofInt_add, same, BitVec.ofInt_natCast]

theorem span_eq :
    span range.least.toBitVec range.most.toBitVec = BitVec.ofNat 64 range.size := by
  have ordered := Int64.le_iff_toInt_le.mp range.ordered
  have most : range.least.toInt + ((range.most.toInt - range.least.toInt).toNat : Int) =
      range.most.toInt := by omega
  have bits : range.most.toBitVec = range.least.toBitVec +
      BitVec.ofNat 64 (range.most.toInt - range.least.toInt).toNat := by
    rw [← ofInt_add, most]
    exact BitVec.ofInt_toInt.symm
  rw [bits, span_add]
  rfl

/-- The word at an offset has the bits of the integer there. -/
theorem ofBitVec_valueAt (offset : Fin range.size) :
    Int64.ofBitVec (valueAt range.least.toBitVec range.size offset.val) = range.integer offset := by
  apply Int64.toBitVec_inj.mp
  show valueAt range.least.toBitVec range.size offset.val = (range.integer offset).toBitVec
  unfold valueAt integer
  rw [Int64.toBitVec_ofInt]
  by_cases all : range.size = UInt64.size
  · rw [if_pos all, if_pos all, BitVec.ofInt_natCast]
  · rw [if_neg all, if_neg all, ofInt_add]

/-- **An integer is drawn by its offset.** -/
theorem draw_eq :
    (range.draw : StateM σ Int64) = range.integer <$> below64 range.size range.size_pos := by
  have between : (between bits64 range.least.toBitVec range.most.toBitVec : StateM σ _) = _ :=
    between64_eq range.size_pos range.size_le range.span_eq
  funext source
  unfold draw
  rw [between]
  exact Prod.ext (range.ofBitVec_valueAt _) rfl

end IntegerRange

/-! ### Places in lists -/

/-- **A choice is drawn as a word** from zero to the last place, if words can count the places. -/
theorem Choices.draw_eq_between (choices : Choices) (few : choices.names.length ≤ UInt64.size) :
    (choices.draw : StateM σ String) = (fun word => choices.names.getD word.toNat "") <$>
      between bits64 0 (BitVec.ofNat 64 (choices.names.length - 1)) := by
  have positive : 0 < choices.names.length := List.length_pos_iff.mpr choices.nonempty
  have named (place : Fin choices.names.length) :
      choices.names.getD (BitVec.ofNat 64 place.val).toNat "" = choices.names[place] := by
    rw [toNat_ofNat_val few]
    exact (List.getElem_eq_getD "").symm
  rw [← below64_eq_between positive few]
  funext source
  exact Prod.ext (named _).symm rfl

/-- **A character is drawn as a word** below the number of characters. -/
theorem Generator.letters_succ_eq_between (count : Nat) :
    (letters (count + 1) : StateM σ (List Char)) = (between bits64 0 62 >>= fun word =>
      List.cons (letter (Fin.ofNat 63 word.toNat)) <$> letters count) := by
  have positive : 0 < 63 := Nat.succ_pos 62
  have few : 63 ≤ UInt64.size := by decide
  have placed (place : Fin 63) : Fin.ofNat 63 (BitVec.ofNat 64 place.val).toNat = place := by
    rw [toNat_ofNat_val few]
    exact Fin.ext (Nat.mod_eq_of_lt place.isLt)
  have drawn : between bits64 0 62 = (fun place => BitVec.ofNat 64 place.val) <$>
      (below64 63 positive : StateM σ (Fin 63)) := (below64_eq_between positive few).symm
  funext source
  rw [drawn, letters]
  simp only [State.bind_apply, State.map_apply, State.pure_apply, placed]

/-- A name is drawn as a word of 32 bits from zero to the last place. -/
theorem name_eq_between {names : Array String} (positive : 0 < names.size)
    (few : names.size ≤ UInt32.size) :
    ((fun place => names[place]) <$> below32 names.size positive : StateM σ String) =
      (fun word => names.getD word.toNat "") <$>
        between bits32 0 (BitVec.ofNat 32 (names.size - 1)) := by
  have named (place : Fin names.size) :
      names.getD (BitVec.ofNat 32 place.val).toNat "" = names[place] := by
    rw [toNat_ofNat_val few]
    exact (Array.getElem_eq_getD "").symm
  rw [← below32_eq_between positive few]
  funext source
  exact Prod.ext (named _).symm rfl

theorem firstNames_few : firstNames.size ≤ UInt32.size := by decide +kernel

/-- **A first name is drawn as a word** of 32 bits. -/
theorem Generator.firstNameDraw_eq_between :
    (firstNameDraw : StateM σ String) = (fun word => firstNames.getD word.toNat "") <$>
      between bits32 0 (BitVec.ofNat 32 (firstNames.size - 1)) :=
  name_eq_between firstNames_nonempty firstNames_few

end Seeding
