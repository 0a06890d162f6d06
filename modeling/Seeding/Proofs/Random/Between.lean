/-
**Draws between two words are draws below a size.**

A draw between two words computes with words that wrap around, a draw below a size with numbers. The
number of values, as a word, is the size of the range, or zero where the size is that of all words.
Each word of the first computation is the remainder of its number in the second: the leading zeros of
the span are the distance of its top bit from the top (`toNat_clz`), the product in twice the bits
loses nothing, and so both accept the same words, for the same offsets (`offset?_eq`).

Main statements: `between_eq`, for words of any width and every source; `below64_eq_between` and
`below32_eq_between`, which carry the draws below a size over to words.
-/
import Seeding.Random.Uniform
import Seeding.Proofs.State

namespace Seeding.Uniform

/-! ### One loop for both -/

/-- A loop over views of words that accepts views of values gives the view of what the loop over the
words gives. -/
theorem settle_view {σ ω ν α β : Type} {accept? : ω → Option α} {anyway : ω → α}
    {next : σ → ω × σ} {accept?' : ν → Option β} {anyway' : ν → β} {next' : σ → ν × σ}
    {word : ω → ν} {view : α → β}
    (words : ∀ source, next' source = (word (next source).1, (next source).2))
    (accepted : ∀ drawn, accept?' (word drawn) = (accept? drawn).map view)
    (rest : ∀ drawn, anyway' (word drawn) = view (anyway drawn)) (patience : Nat) (source : σ) :
    settle accept?' anyway' next' patience source =
      (view (settle accept? anyway next patience source).1,
        (settle accept? anyway next patience source).2) := by
  induction patience generalizing source with
  | zero =>
    unfold settle
    simp only [words, accepted, rest]
    cases accept? (next source).1 <;> rfl
  | succ patience ih =>
    unfold settle
    simp only [words, accepted]
    cases accept? (next source).1 with
    | some value => rfl
    | none => exact ih (next source).2

/-! ### One word -/

section Words

variable {bits size : Nat} {span : BitVec bits}

theorem toNat_pos (some : span ≠ 0) : 0 < span.toNat :=
  Nat.pos_of_ne_zero fun zero => some (BitVec.toNat_inj.mp zero)

theorem ne_zero_of_toNat (number : span.toNat = size) (positive : 0 < size) : span ≠ 0 := by
  rintro rfl
  exact Nat.ne_of_gt positive number.symm

/-- The leading zeros of a word are the distance of its top bit from that of all words. -/
theorem toNat_clz (room : 0 < bits) (some : span ≠ 0) :
    span.clz.toNat = bits - 1 - Nat.log2 span.toNat := by
  have positive : span.toNat ≠ 0 := Nat.ne_of_gt (toNat_pos some)
  have above : span.toNat < Nat.pow 2 (bits - span.clz.toNat) := BitVec.toNat_lt_two_pow_sub_clz
  have below : Nat.pow 2 (bits - 1 - span.clz.toNat) ≤ span.toNat :=
    BitVec.two_pow_sub_clz_le_toNat_of_ne_zero room some
  have high : Nat.log2 span.toNat < bits - span.clz.toNat := (Nat.log2_lt positive).mpr above
  have low : bits - 1 - span.clz.toNat ≤ Nat.log2 span.toNat := (Nat.le_log2 positive).mpr below
  omega

/-- Shifting by the leading zeros loses no bit. -/
theorem toNat_shiftLeft_clz (span : BitVec bits) :
    (span <<< span.clz).toNat = span.toNat * Nat.pow 2 span.clz.toNat := by
  have above : span.toNat < Nat.pow 2 (bits - span.clz.toNat) := BitVec.toNat_lt_two_pow_sub_clz
  have few : span.clz.toNat ≤ bits := by
    have least := BitVec.le_def.mp (BitVec.clz_le (x := span))
    exact Nat.le_trans least (Nat.mod_le _ _)
  have kept : span.toNat * Nat.pow 2 span.clz.toNat < Nat.pow 2 bits :=
    calc span.toNat * Nat.pow 2 span.clz.toNat
        < Nat.pow 2 (bits - span.clz.toNat) * Nat.pow 2 span.clz.toNat :=
          Nat.mul_lt_mul_of_pos_right above (Nat.two_pow_pos _)
      _ = Nat.pow 2 bits := by
          rw [Nat.pow_eq, Nat.pow_eq, ← Nat.pow_add, Nat.sub_add_cancel few]
          rfl
  rw [BitVec.shiftLeft_eq', BitVec.toNat_shiftLeft, Nat.shiftLeft_eq]
  exact Nat.mod_eq_of_lt kept

/-- The zone of a span is the zone of its number. -/
theorem toNat_spanZone (room : 0 < bits) (some : span ≠ 0) :
    (spanZone span).toNat = zone bits span.toNat := by
  have one : (1 : BitVec bits).toNat = 1 :=
    Nat.mod_eq_of_lt (Nat.one_lt_two_pow_iff.mpr (Nat.ne_of_gt room))
  have positive : 0 < (span <<< span.clz).toNat := by
    rw [toNat_shiftLeft_clz]
    exact Nat.mul_pos (toNat_pos some) (Nat.two_pow_pos _)
  have least : 1 ≤ span <<< span.clz := by
    rw [BitVec.le_def, one]
    exact positive
  unfold spanZone zone
  rw [BitVec.toNat_sub_of_le least, toNat_shiftLeft_clz, toNat_clz room some, one]

/-- The wide product is the product of the numbers. -/
theorem toNat_wide (word span : BitVec bits) :
    (word.setWidth (bits + bits) * span.setWidth (bits + bits)).toNat =
      word.toNat * span.toNat := by
  have room : bits ≤ bits + bits := Nat.le_add_right bits bits
  have small : word.toNat * span.toNat < Nat.pow 2 (bits + bits) := by
    rw [Nat.pow_eq, Nat.pow_add]
    exact Nat.mul_lt_mul'' word.isLt span.isLt
  rw [BitVec.toNat_mul, BitVec.toNat_setWidth_of_le room, BitVec.toNat_setWidth_of_le room]
  exact Nat.mod_eq_of_lt small

/-- **A word is accepted as its number is**, and the offset that it stands for is the value. -/
theorem offset?_eq (room : 0 < bits) (number : span.toNat = size) (positive : 0 < size)
    (word : Word bits) :
    offset? span (BitVec.ofFin word) =
      (accept? bits size word).map fun value => BitVec.ofNat bits value.val := by
  have some : span ≠ 0 := ne_zero_of_toNat number positive
  subst number
  have product := toNat_wide (BitVec.ofFin word) span
  have low : (BitVec.setWidth bits ((BitVec.ofFin word).setWidth (bits + bits) *
      span.setWidth (bits + bits))).toNat = word.val * span.toNat % Nat.pow 2 bits := by
    rw [BitVec.toNat_setWidth, product]
    rfl
  have high : BitVec.setWidth bits (((BitVec.ofFin word).setWidth (bits + bits) *
      span.setWidth (bits + bits)) >>> bits) =
        BitVec.ofNat bits (word.val * span.toNat / Nat.pow 2 bits) := by
    apply BitVec.eq_of_toNat_eq
    rw [BitVec.toNat_setWidth, BitVec.toNat_ushiftRight, product, Nat.shiftRight_eq_div_pow,
      BitVec.toNat_ofNat]
    rfl
  unfold offset? accept?
  simp only [BitVec.le_def, low, toNat_spanZone room some, high, dif_pos positive]
  split <;> rfl

/-- The remainder of a word is that of its number. -/
theorem ofFin_mod (number : span.toNat = size) (positive : 0 < size) (word : Word bits) :
    BitVec.ofFin word % span = BitVec.ofNat bits (remainder positive word).val := by
  subst number
  have below : word.val % span.toNat < Nat.pow 2 bits :=
    Nat.lt_trans (Nat.mod_lt _ positive) span.isLt
  apply BitVec.eq_of_toNat_eq
  rw [BitVec.toNat_umod, BitVec.toNat_ofNat]
  exact (Nat.mod_eq_of_lt below).symm

end Words

/-! ### Draws -/

section Draws

variable {σ : Type} [WordSource σ] {bits size : Nat}

/-- The value at an offset from a bound: the offset itself if any word is a value. -/
def valueAt (low : BitVec bits) (size offset : Nat) : BitVec bits :=
  if size = Nat.pow 2 bits then BitVec.ofNat bits offset else low + BitVec.ofNat bits offset

/-- If all words are values, each stands for itself. -/
theorem accept?_all (positive : 0 < Nat.pow 2 bits) (word : Word bits) :
    accept? bits (Nat.pow 2 bits) word = some word := by
  unfold accept?
  rw [if_pos (by rw [Nat.mul_mod_left]; exact Nat.zero_le _), dif_pos positive]
  exact congrArg some (Fin.ext (Nat.mul_div_cancel _ positive))

/-- **A draw between two words is a draw below the number of values.** -/
theorem between_eq (room : 0 < bits) {low high : BitVec bits} (positive : 0 < size)
    (fits : size ≤ Nat.pow 2 bits) (counted : span low high = BitVec.ofNat bits size)
    {next : σ → BitVec bits × σ} {number : σ → Word bits × σ}
    (words : ∀ source, next source = (BitVec.ofFin (number source).1, (number source).2))
    (source : σ) :
    between next low high source =
      (valueAt low size (settleBelow positive number (WordSource.patience source) source).1.val,
        (settleBelow positive number (WordSource.patience source) source).2) := by
  unfold between valueAt
  by_cases all : size = Nat.pow 2 bits
  · subst all
    have zero : span low high = 0 := by
      rw [counted]
      exact BitVec.eq_of_toNat_eq (Nat.mod_self _)
    have settled : settleBelow positive number (WordSource.patience source) source = number source :=
      settle.eq_1 (accept? bits (Nat.pow 2 bits)) (remainder positive) number source _ _
        (accept?_all positive _)
    simp only [if_pos zero, if_true, settled, words]
    exact Prod.ext (BitVec.eq_of_toNat_eq (Nat.mod_eq_of_lt (number source).1.isLt).symm) rfl
  · have below : size < Nat.pow 2 bits := Nat.lt_of_le_of_ne fits all
    have number_eq : (span low high).toNat = size := by
      rw [counted, BitVec.toNat_ofNat]
      exact Nat.mod_eq_of_lt below
    have some : span low high ≠ 0 := ne_zero_of_toNat number_eq positive
    simp only [if_neg some, if_neg all]
    rw [settle_view words (offset?_eq room number_eq positive) (ofFin_mod number_eq positive)]
    rfl

/-- From the lowest word on a value is its offset. -/
theorem valueAt_zero (offset : Nat) :
    valueAt (0 : BitVec bits) size offset = BitVec.ofNat bits offset := by
  unfold valueAt
  split
  · rfl
  · exact BitVec.zero_add _

/-- The span from a word to the one so many places above it. -/
theorem span_add (low : BitVec bits) (more : Nat) :
    span low (low + BitVec.ofNat bits more) = BitVec.ofNat bits (more + 1) := by
  unfold span
  rw [BitVec.add_comm low, BitVec.add_sub_cancel]
  exact BitVec.ofNat_add_ofNat more 1

/-- The words below a size are those from zero to the word before it. -/
theorem span_zero (positive : 0 < size) :
    span 0 (BitVec.ofNat bits (size - 1)) = BitVec.ofNat bits size := by
  have same : 0 + BitVec.ofNat bits (size - 1) = BitVec.ofNat bits (size - 1) :=
    BitVec.zero_add _
  have above := span_add (0 : BitVec bits) (size - 1)
  rwa [same, Nat.sub_add_cancel positive] at above

theorem bits64_eq (source : σ) :
    bits64 source = (BitVec.ofFin (word64 source).1, (word64 source).2) := rfl

theorem bits32_eq (source : σ) :
    bits32 source = (BitVec.ofFin (word32 source).1, (word32 source).2) := rfl

/-- A draw between two words of 64 bits. -/
theorem between64_eq {low high : BitVec 64} (positive : 0 < size) (fits : size ≤ UInt64.size)
    (counted : span low high = BitVec.ofNat 64 size) :
    (between bits64 low high : StateM σ (BitVec 64)) =
      (fun offset => valueAt low size offset.val) <$> below64 size positive := by
  have room : 0 < 64 := by decide
  funext source
  exact between_eq room positive fits counted bits64_eq source

/-- A value below a size that is no larger than that of all words is the number of its word. -/
theorem toNat_ofNat_val (fits : size ≤ Nat.pow 2 bits) (value : Fin size) :
    (BitVec.ofNat bits value.val).toNat = value.val :=
  (BitVec.toNat_ofNat _ _).trans (Nat.mod_eq_of_lt (Nat.lt_of_lt_of_le value.isLt fits))

/-- **A draw below a size is a draw of a word from zero on**, if the size is no larger than that of
all words. -/
theorem below64_eq_between (positive : 0 < size) (fits : size ≤ UInt64.size) :
    (fun value => BitVec.ofNat 64 value.val) <$> (below64 size positive : StateM σ (Fin size)) =
      between bits64 0 (BitVec.ofNat 64 (size - 1)) := by
  rw [between64_eq positive fits (span_zero positive)]
  simp only [valueAt_zero]

/-- So it is with words of 32 bits. -/
theorem below32_eq_between (positive : 0 < size) (fits : size ≤ UInt32.size) :
    (fun value => BitVec.ofNat 32 value.val) <$> (below32 size positive : StateM σ (Fin size)) =
      between bits32 0 (BitVec.ofNat 32 (size - 1)) := by
  have room : 0 < 32 := by decide
  have low : span 0 (BitVec.ofNat 32 (size - 1)) = BitVec.ofNat 32 size := span_zero positive
  funext source
  rw [between_eq room positive fits low bits32_eq source]
  simp only [valueAt_zero]
  rfl

end Draws

end Seeding.Uniform
