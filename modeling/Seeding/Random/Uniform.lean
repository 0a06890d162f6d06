/-
**Uniform draws from random words.**

A draw of one of `size` values multiplies a word by `size`: the high half of the product is the
value, and the word is accepted when the low half lies in the acceptance zone. The zone holds the
same number of words for every value. A rejected word is followed by the next one (`settle`); when
the source's patience is spent, the next word counts by its remainder, so that the draw ends with a
value in any case.

A draw below a size, which may be any number, computes with numbers (`accept?`). A draw between two
words computes with words that wrap around (`offset?`): there are `high - low + 1` values, and if
that is zero, all words lie between the bounds and the next one is the value.
-/
import Seeding.Random.Source

namespace Seeding.Uniform

/-- Draws words until one is accepted, but rejects at most `patience` of them; after those a word
counts anyway. -/
def settle {σ ω α : Type} (accept? : ω → Option α) (anyway : ω → α) (next : σ → ω × σ)
    (patience : Nat) (source : σ) : α × σ :=
  let drawn := next source
  match accept? drawn.1, patience with
  | some value, _ => (value, drawn.2)
  | none, 0 => (anyway drawn.1, drawn.2)
  | none, patience + 1 => settle accept? anyway next patience drawn.2

/-! ### Values below a size -/

/-- A word of so many bits, as a number. -/
abbrev Word (bits : Nat) := Fin (Nat.pow 2 bits)

/-- The largest low half that is accepted: one less than `size` moved up to the top bit. -/
def zone (bits size : Nat) : Nat := size * Nat.pow 2 (bits - 1 - Nat.log2 size) - 1

/-- The value that a word of `bits` bits stands for, unless the word is rejected. -/
def accept? (bits size : Nat) (word : Word bits) : Option (Fin size) :=
  if word.val * size % Nat.pow 2 bits ≤ zone bits size then
    if positive : 0 < size then
      some ⟨word.val * size / Nat.pow 2 bits, Nat.div_lt_of_lt_mul
        (Nat.mul_lt_mul_of_lt_of_le word.isLt (Nat.le_refl size) positive)⟩
    else none
  else none

/-- The remainder of a word. -/
def remainder {bits size : Nat} (positive : 0 < size) (word : Word bits) : Fin size :=
  ⟨word.val % size, Nat.mod_lt _ positive⟩

/-- Draws words until one stands for a value below `size`, or the patience is spent. -/
def settleBelow {σ : Type} {bits size : Nat} (positive : 0 < size)
    (next : σ → Word bits × σ) (patience : Nat) (source : σ) : Fin size × σ :=
  settle (accept? bits size) (remainder positive) next patience source

variable {σ : Type} [WordSource σ]

/-- The next word of 32 bits as a number. -/
def word32 (source : σ) : Word 32 × σ :=
  let drawn := WordSource.next32 source
  (⟨drawn.1.toNat, drawn.1.toNat_lt⟩, drawn.2)

/-- The next word of 64 bits as a number. -/
def word64 (source : σ) : Word 64 × σ :=
  let drawn := WordSource.next64 source
  (⟨drawn.1.toNat, drawn.1.toNat_lt⟩, drawn.2)

/-- Draws a value below `size` from words of 32 bits. -/
def below32 (size : Nat) (positive : 0 < size) : StateM σ (Fin size) := fun source =>
  settleBelow positive word32 (WordSource.patience source) source

/-- Draws a value below `size` from words of 64 bits. -/
def below64 (size : Nat) (positive : 0 < size) : StateM σ (Fin size) := fun source =>
  settleBelow positive word64 (WordSource.patience source) source

/-! ### Values between two words -/

section Between

variable {bits : Nat}

/-- The number of values from `low` to `high`; it is zero if they are all the words. -/
def span (low high : BitVec bits) : BitVec bits := high - low + 1

/-- The largest low half that is accepted: one less than the span moved up to the top bit. -/
def spanZone (span : BitVec bits) : BitVec bits := (span <<< span.clz) - 1

/-- The offset that a word stands for, unless the word is rejected: the two halves of the product
are read off twice as many bits. -/
def offset? (span word : BitVec bits) : Option (BitVec bits) :=
  let product := word.setWidth (bits + bits) * span.setWidth (bits + bits)
  if product.setWidth bits ≤ spanZone span then some ((product >>> bits).setWidth bits) else none

/-- Draws a word from `low` to `high`. -/
def between (next : σ → BitVec bits × σ) (low high : BitVec bits) : StateM σ (BitVec bits) :=
  fun source =>
    let span := span low high
    if span = 0 then next source
    else
      let drawn := settle (offset? span) (· % span) next (WordSource.patience source) source
      (low + drawn.1, drawn.2)

end Between

/-- The next 32 bits. -/
def bits32 (source : σ) : BitVec 32 × σ :=
  let drawn := WordSource.next32 source
  (drawn.1.toBitVec, drawn.2)

/-- The next 64 bits. -/
def bits64 (source : σ) : BitVec 64 × σ :=
  let drawn := WordSource.next64 source
  (drawn.1.toBitVec, drawn.2)

end Seeding.Uniform
