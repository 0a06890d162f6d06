/-
**How many words stand for a value.**

The product of a word and the size is cut at multiples of `2 ^ bits`: the piece it lies in is the
value, and the word is accepted if the product lies in the first part of the piece, whose length is
the size moved up to the top bit. That length is a multiple of the size, so every such part holds
the same number of products, whichever piece it begins (`accept?_eq_some_iff`).

* `card_accepted` — every value has as many words of 64 bits as two to the number of leading zeros
  of the size (`wordsEach`).
* `card_rejected_le` — at most half of all words are rejected.
-/
import Mathlib
import Seeding.Proofs.Random.Between
import Seeding.Proofs.Random.Tape

namespace Seeding.Uniform

variable {bits size : Nat}

/-! ### The length of the accepted parts -/

/-- The number of words that stand for each of `size` values. -/
def multiplicity (bits size : Nat) : Nat := 2 ^ (bits - 1 - Nat.log2 size)

theorem multiplicity_pos (bits size : Nat) : 0 < multiplicity bits size := Nat.two_pow_pos _

/-- The size moved up fits in as many bits as a word has, but for the size of all words. -/
theorem mul_multiplicity_le (fits : size ≤ 2 ^ bits) : size * multiplicity bits size ≤ 2 ^ bits := by
  unfold multiplicity
  by_cases room : Nat.log2 size + 1 ≤ bits
  · have below : size < 2 ^ (Nat.log2 size + 1) := Nat.lt_log2_self
    calc size * 2 ^ (bits - 1 - Nat.log2 size)
        ≤ 2 ^ (Nat.log2 size + 1) * 2 ^ (bits - 1 - Nat.log2 size) :=
          Nat.mul_le_mul_right _ (Nat.le_of_lt below)
      _ = 2 ^ bits := by
          rw [← pow_add]
          congr 1
          omega
  · have none : bits - 1 - Nat.log2 size = 0 := by omega
    rw [none, pow_zero, Nat.mul_one]
    exact fits

/-- The size moved up has its top bit set. -/
theorem half_le_mul_multiplicity (positive : 0 < size) :
    2 ^ (bits - 1) ≤ size * multiplicity bits size := by
  have least : 2 ^ Nat.log2 size ≤ size := Nat.log2_self_le (Nat.ne_of_gt positive)
  calc 2 ^ (bits - 1)
      ≤ 2 ^ (Nat.log2 size + (bits - 1 - Nat.log2 size)) :=
        Nat.pow_le_pow_right (by decide) (by omega)
    _ = 2 ^ Nat.log2 size * 2 ^ (bits - 1 - Nat.log2 size) := pow_add _ _ _
    _ ≤ size * multiplicity bits size := Nat.mul_le_mul_right _ least

/-! ### The words of a value -/

/-- **The words of a value.** Their products with the size lie in the first part of its piece. -/
theorem accept?_eq_some_iff (fits : size ≤ 2 ^ bits) {word : Word bits} {value : Fin size} :
    accept? bits size word = some value ↔
      value.val * 2 ^ bits ≤ word.val * size ∧
        word.val * size < value.val * 2 ^ bits + size * multiplicity bits size := by
  have positive : 0 < size := Nat.lt_of_le_of_lt (Nat.zero_le _) value.isLt
  have length : 0 < size * multiplicity bits size := Nat.mul_pos positive (multiplicity_pos _ _)
  have short := mul_multiplicity_le fits
  have whole : 2 ^ bits * (word.val * size / 2 ^ bits) + word.val * size % 2 ^ bits =
    word.val * size := Nat.div_add_mod _ _
  have zone : zone bits size = size * multiplicity bits size - 1 := rfl
  unfold accept?
  simp only [Nat.pow_eq, zone, dif_pos positive]
  constructor
  · intro accepted
    split at accepted
    · rename_i inside
      have same : word.val * size / 2 ^ bits = value.val :=
        congrArg Fin.val (Option.some.inj accepted)
      rw [same, Nat.mul_comm] at whole
      omega
    · cases accepted
  · rintro ⟨above, below⟩
    have same : word.val * size / 2 ^ bits = value.val := by
      refine Nat.div_eq_of_lt_le above ?_
      rw [Nat.succ_mul]
      omega
    rw [same, Nat.mul_comm] at whole
    rw [if_pos (by omega)]
    exact congrArg Option.some (Fin.ext same)

/-- The first word of a value. -/
def firstWord (bits : Nat) (value : Fin size) : Nat := value.val * 2 ^ bits ⌈/⌉ size

theorem firstWord_le_iff {word : Nat} {value : Fin size} :
    firstWord bits value ≤ word ↔ value.val * 2 ^ bits ≤ word * size := by
  have positive : 0 < size := Nat.lt_of_le_of_lt (Nat.zero_le _) value.isLt
  rw [firstWord, ceilDiv_le_iff_le_mul positive, Nat.mul_comm size]

theorem firstWord_add_le_iff {word count : Nat} {value : Fin size} :
    firstWord bits value + count ≤ word ↔ value.val * 2 ^ bits + size * count ≤ word * size := by
  have positive : 0 < size := Nat.lt_of_le_of_lt (Nat.zero_le _) value.isLt
  by_cases more : count ≤ word
  · obtain ⟨rest, rfl⟩ := Nat.exists_eq_add_of_le more
    rw [Nat.add_mul, Nat.mul_comm count size]
    have least : firstWord bits value ≤ rest ↔ value.val * 2 ^ bits ≤ rest * size :=
      firstWord_le_iff
    omega
  · have fewer : word * size < size * count := by
      rw [Nat.mul_comm size]
      exact Nat.mul_lt_mul_of_pos_right (Nat.lt_of_not_le more) positive
    omega

/-- The words of a value follow one another. -/
theorem accept?_eq_some_iff_mem (fits : size ≤ 2 ^ bits) {word : Word bits} {value : Fin size} :
    accept? bits size word = some value ↔
      firstWord bits value ≤ word.val ∧
        word.val < firstWord bits value + multiplicity bits size := by
  rw [accept?_eq_some_iff fits, firstWord_le_iff, ← Nat.not_le, ← Nat.not_le, firstWord_add_le_iff]

/-- The last word of a value is a word. -/
theorem firstWord_add_multiplicity_le (fits : size ≤ 2 ^ bits) (value : Fin size) :
    firstWord bits value + multiplicity bits size ≤ 2 ^ bits := by
  rw [firstWord_add_le_iff]
  have short := mul_multiplicity_le fits
  calc value.val * 2 ^ bits + size * multiplicity bits size
      ≤ value.val * 2 ^ bits + 2 ^ bits := Nat.add_le_add_left short _
    _ = (value.val + 1) * 2 ^ bits := (Nat.succ_mul _ _).symm
    _ ≤ size * 2 ^ bits := Nat.mul_le_mul_right _ value.isLt
    _ = 2 ^ bits * size := Nat.mul_comm _ _

/-! ### Words of 64 bits -/

theorem accepted?_eq_some_iff (fits : size ≤ 2 ^ 64) {word : UInt64} {value : Fin size} :
    accepted? size word = some value ↔
      firstWord 64 value ≤ word.toNat ∧
        word.toNat < firstWord 64 value + multiplicity 64 size :=
  accept?_eq_some_iff_mem fits

/-- **Every value has the same number of words.** -/
theorem card_accepted (fits : size ≤ 2 ^ 64) (value : Fin size) :
    Nat.card { word : UInt64 // accepted? size word = some value } = multiplicity 64 size := by
  have room : firstWord 64 value + multiplicity 64 size ≤ 2 ^ 64 :=
    firstWord_add_multiplicity_le fits value
  let place (word : { word : UInt64 // accepted? size word = some value }) :
      Fin (multiplicity 64 size) :=
    ⟨word.val.toNat - firstWord 64 value, by
      have ⟨above, below⟩ := (accepted?_eq_some_iff fits).mp word.property
      omega⟩
  have bijective : place.Bijective := by
    constructor
    · intro first second same
      have ⟨above, _⟩ := (accepted?_eq_some_iff fits).mp first.property
      have ⟨above', _⟩ := (accepted?_eq_some_iff fits).mp second.property
      have offset : first.val.toNat - firstWord 64 value = second.val.toNat - firstWord 64 value :=
        congrArg Fin.val same
      refine Subtype.ext (UInt64.toNat_inj.mp ?_)
      omega
    · intro index
      have below := index.isLt
      have word : (UInt64.ofNat (firstWord 64 value + index)).toNat = firstWord 64 value + index :=
        UInt64.toNat_ofNat_of_lt' (Nat.lt_of_lt_of_le (Nat.add_lt_add_left below _) room)
      refine ⟨⟨UInt64.ofNat (firstWord 64 value + index), ?_⟩, Fin.ext ?_⟩
      · rw [accepted?_eq_some_iff fits, word]
        omega
      · show (UInt64.ofNat (firstWord 64 value + index)).toNat - firstWord 64 value = index
        rw [word]
        omega
  rw [Nat.card_congr (Equiv.ofBijective place bijective), Nat.card_fin]

/-- Every value has a word. -/
theorem exists_accepted (fits : size ≤ 2 ^ 64) (value : Fin size) :
    ∃ word, accepted? size word = some value := by
  have some : 0 < Nat.card { word : UInt64 // accepted? size word = some value } := by
    rw [card_accepted fits]
    exact multiplicity_pos 64 size
  obtain ⟨⟨word, accepted⟩⟩ := (Nat.card_pos_iff.mp some).1
  exact ⟨word, accepted⟩

/-- The words that no value has are those that are rejected. -/
theorem card_rejected_add (fits : size ≤ 2 ^ 64) :
    Nat.card { word : UInt64 // accepted? size word = none } + size * multiplicity 64 size =
      2 ^ 64 := by
  have numbers : UInt64 ≃ Fin UInt64.size :=
    ⟨UInt64.toFin, UInt64.ofFin, fun _ => rfl, fun _ => rfl⟩
  have all : Nat.card UInt64 = 2 ^ 64 := (Nat.card_congr numbers).trans (Nat.card_fin _)
  rw [← all, ← Nat.card_congr (Equiv.sigmaFiberEquiv (accepted? size)), Nat.card_sigma,
    Fintype.sum_option]
  simp only [card_accepted fits, Finset.sum_const, Finset.card_univ, Fintype.card_fin, smul_eq_mul]

/-- **At most half of all words are rejected.** -/
theorem card_rejected_le (positive : 0 < size) (fits : size ≤ 2 ^ 64) :
    Nat.card { word : UInt64 // accepted? size word = none } ≤ 2 ^ 63 := by
  have all := card_rejected_add fits
  have half : 2 ^ (64 - 1) ≤ size * multiplicity 64 size := half_le_mul_multiplicity positive
  omega

/-! ### Leading zeros -/

/-- How many words of 64 bits stand for each of `size` values: two to the number of leading zeros of
the size in 64 bits, and one if there are as many values as words. -/
def wordsEach (size : Nat) : Nat :=
  if size = UInt64.size then 1 else 2 ^ (BitVec.ofNat 64 size).clz.toNat

/-- The top bit of a number is the one that follows its leading zeros. -/
theorem clz_eq (positive : 0 < size) (short : size < 2 ^ 64) :
    (BitVec.ofNat 64 size).clz.toNat = 63 - Nat.log2 size := by
  have same : (BitVec.ofNat 64 size).toNat = size := by
    rw [BitVec.toNat_ofNat, Nat.mod_eq_of_lt short]
  rw [toNat_clz (by decide) (ne_zero_of_toNat same positive), same]

theorem multiplicity_eq_wordsEach (positive : 0 < size) (fits : size ≤ 2 ^ 64) :
    multiplicity 64 size = wordsEach size := by
  unfold wordsEach
  by_cases all : size = UInt64.size
  · rw [if_pos all, all]
    decide
  · rw [if_neg all, clz_eq positive (Nat.lt_of_le_of_ne fits all)]
    rfl

end Seeding.Uniform
