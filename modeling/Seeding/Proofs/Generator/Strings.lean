/-
**Random strings.**

A string is drawn from one word for its length and one for each character, if none of them is
rejected, and from more words else. The words of a string that is read from so few are independent of
each other: the first stands for the length and each of the others for its character
(`reads_string_iff`). So they are counted place by place.

Main statement: `strings_fair`.
-/
import Seeding.Proofs.Generator.Fitting
import Seeding.Proofs.Random.Fair

namespace Seeding

open Tape

/-! ### Lengths -/

namespace LengthRange

theorem length_injective (range : LengthRange) : range.length.Injective := by
  intro first second same
  have equal : range.least.toNat + first.val = range.least.toNat + second.val := same
  exact Fin.ext (Nat.add_left_cancel equal)

theorem exists_length_iff (range : LengthRange) (count : Nat) :
    range.least.toNat ≤ count ∧ count ≤ range.most.toNat ↔
      ∃ offset, range.length offset = count := by
  have size := range.size_eq
  constructor
  · rintro ⟨above, below⟩
    exact ⟨⟨count - range.least.toNat, by omega⟩, Nat.add_sub_of_le above⟩
  · rintro ⟨offset, rfl⟩
    have inside := offset.isLt
    unfold length
    omega

/-- A length is drawn by its offset. -/
theorem returns_draw_iff (range : LengthRange) {words : Nat → UInt64} {place last count : Nat} :
    Returns range.draw words place count last ↔
      ∃ offset, range.length offset = count ∧
        Uniform.Settles range.size words place offset last := by
  rw [range.draw_eq]
  exact Uniform.returns_view_iff range.length_injective

/-- **A length is drawn fairly.** -/
theorem fair (range : LengthRange) :
    Fair range.draw (fun count => range.least.toNat ≤ count ∧ count ≤ range.most.toNat)
      (Uniform.wordsEach range.size) := by
  rw [range.draw_eq]
  exact (fair_below64 range.size_pos range.size_le).map range.length_injective
    range.exists_length_iff

end LengthRange

/-! ### Characters -/

namespace Generator

/-- A letter of the English alphabet, a digit or the underscore. -/
def IsLetter (character : Char) : Prop :=
  character.isUpper ∨ character.isLower ∨ character.isDigit ∨ character = '_'

theorem isLetter_letter : ∀ place, IsLetter (letter place) := by
  unfold IsLetter
  decide

theorem letter_injective : Function.Injective letter := by
  unfold Function.Injective
  decide +kernel

theorem IsLetter.toNat_lt {character : Char} (letter : IsLetter character) :
    character.toNat < 128 := by
  rcases letter with upper | lower | digit | rfl
  · have below : character.val ≤ 'Z'.val := (of_decide_eq_true upper).2
    exact Nat.lt_of_le_of_lt (UInt32.le_iff_toNat_le.mp below) (by decide)
  · have below : character.val ≤ 'z'.val := of_decide_eq_true (Bool.and_eq_true_iff.mp lower).2
    exact Nat.lt_of_le_of_lt (UInt32.le_iff_toNat_le.mp below) (by decide)
  · have below : character.val ≤ '9'.val := of_decide_eq_true (Bool.and_eq_true_iff.mp digit).2
    exact Nat.lt_of_le_of_lt (UInt32.le_iff_toNat_le.mp below) (by decide)
  · decide

/-- The characters that can be drawn are the letters, the digits and the underscore. -/
theorem exists_letter_iff (character : Char) :
    IsLetter character ↔ ∃ place, letter place = character := by
  constructor
  · intro inside
    have all : ∀ code : Fin 128, IsLetter (Char.ofNat code.val) →
        ∃ place, letter place = Char.ofNat code.val := by
      unfold IsLetter
      decide +kernel
    have found := all ⟨character.toNat, inside.toNat_lt⟩
    simp only [Char.ofNat_toNat] at found
    exact found inside
  · rintro ⟨place, rfl⟩
    exact isLetter_letter place

/-- The draw of one character. -/
def letterDraw : StateM Tape Char := letter <$> Uniform.below64 63 (Nat.succ_pos 62)

/-- **A character is drawn fairly.** -/
theorem fair_letterDraw : Fair letterDraw IsLetter (2 ^ 58) := by
  have each : Uniform.wordsEach 63 = 2 ^ 58 := by decide
  rw [← each]
  exact (fair_below64 (Nat.succ_pos 62) (by decide)).map letter_injective exists_letter_iff

variable {words : Nat → UInt64} {place last : Nat}

theorem forward_letters (count : Nat) : Forward (letters count) := by
  induction count with
  | zero => exact forward_pure []
  | succ count ih =>
    exact Uniform.forward_below64.bind fun _ => ih.bind fun _ => forward_pure _

/-- Characters are drawn one after the other. -/
theorem returns_letters_succ_iff {count : Nat} {characters : List Char} :
    Returns (letters (count + 1)) words place characters last ↔
      ∃ character rest middle, character :: rest = characters ∧
        Returns letterDraw words place character middle ∧
        Returns (letters count) words middle rest last := by
  have split : (letters (count + 1) : StateM Tape (List Char)) =
      Uniform.below64 63 (Nat.succ_pos 62) >>= fun place =>
        List.cons (letter place) <$> letters count := rfl
  have forward (place : Fin 63) : Forward (List.cons (letter place) <$> letters count) :=
    fun tape => forward_letters count tape
  rw [split, Uniform.returns_below64_bind forward]
  simp only [returns_map_iff List.cons_injective, letterDraw,
    Uniform.returns_view_iff letter_injective]
  constructor
  · rintro ⟨value, middle, settles, rest, same, later⟩
    exact ⟨letter value, rest, middle, same, ⟨value, rfl, settles⟩, later⟩
  · rintro ⟨_, rest, middle, same, ⟨value, rfl, settles⟩, later⟩
    exact ⟨value, middle, settles, rest, same, later⟩

/-- Each character takes a word at least. -/
theorem returns_letters_le {count : Nat} {characters : List Char}
    (returns : Returns (letters count) words place characters last) : place + count ≤ last := by
  induction count generalizing place characters with
  | zero =>
    obtain ⟨_, rfl⟩ := returns_pure_iff.mp returns
    exact Nat.le_refl place
  | succ count ih =>
    obtain ⟨_, _, middle, _, first, later⟩ := returns_letters_succ_iff.mp returns
    obtain ⟨_, _, settles⟩ := (Uniform.returns_view_iff letter_injective).mp first
    have next := settles.lt
    have others := ih later
    omega

/-- Each character is one of the alphabet. -/
theorem isLetter_of_letters {count : Nat} {characters : List Char}
    (returns : Returns (letters count) words place characters last) :
    ∀ character ∈ characters, IsLetter character := by
  induction count generalizing place characters with
  | zero =>
    obtain ⟨rfl, _⟩ := returns_pure_iff.mp returns
    exact fun _ member => absurd member List.not_mem_nil
  | succ count ih =>
    obtain ⟨_, _, _, rfl, first, later⟩ := returns_letters_succ_iff.mp returns
    exact List.forall_mem_cons.mpr ⟨fair_letterDraw.sound _ _ _ _ first, ih later⟩

/-- **Characters that take a word each** are read from their own words. -/
theorem returns_letters_iff {characters : List Char} :
    Returns (letters characters.length) words place characters (place + characters.length) ↔
      ∀ index : Fin characters.length,
        Reads letterDraw (fun _ : Fin 1 => words (place + index)) characters[index] := by
  induction characters generalizing place with
  | nil => exact ⟨fun _ index => index.elim0, fun _ => returns_pure_iff.mpr ⟨rfl, rfl⟩⟩
  | cons character rest ih =>
    have next : place + (rest.length + 1) = place + 1 + rest.length := by omega
    have later : (∀ index : Fin rest.length,
        Reads letterDraw (fun _ : Fin 1 => words (place + 1 + index)) rest[index]) ↔
        ∀ index : Fin rest.length,
          Reads letterDraw (fun _ : Fin 1 => words (place + index.succ))
            (character :: rest)[index.succ] := by
      refine forall_congr' fun index => ?_
      have shifted : place + 1 + index = place + index.succ := by
        rw [Fin.val_succ]
        omega
      rw [shifted]
      rfl
    show Returns (letters (rest.length + 1)) words place (character :: rest)
        (place + (rest.length + 1)) ↔
      ∀ index : Fin (rest.length + 1),
        Reads letterDraw (fun _ : Fin 1 => words (place + index)) (character :: rest)[index]
    rw [returns_letters_succ_iff, Fin.forall_fin_succ, ← later, ← ih, next]
    constructor
    · rintro ⟨_, _, middle, same, first, others⟩
      obtain ⟨rfl, rfl⟩ := List.cons.inj same
      -- the first character has no word to spare, as the others need the rest
      have enough := returns_letters_le others
      obtain ⟨_, _, settles⟩ := (Uniform.returns_view_iff letter_injective).mp first
      have more := settles.lt
      obtain rfl : middle = place + 1 := by omega
      exact ⟨(Uniform.returns_once_iff letter_injective).mp first, others⟩
    · rintro ⟨first, others⟩
      exact ⟨character, rest, place + 1, rfl,
        (Uniform.returns_once_iff letter_injective).mpr first, others⟩

/-! ### Strings -/

variable {lengths : LengthRange} {characters : List Char}

theorem text_injective : Function.Injective fun characters => Value.text (String.ofList characters) :=
  fun _ _ same => String.ofList_inj.mp (Value.text.inj same)

/-- A string is drawn by its length and then by its characters. -/
theorem returns_string_iff {value : Value} :
    Returns (sample (.string lengths)) words place value last ↔
      ∃ characters middle, Value.text (String.ofList characters) = value ∧
        Returns lengths.draw words place characters.length middle ∧
        Returns (letters characters.length) words middle characters last := by
  have split : (sample (.string lengths) : StateM Tape Value) =
      Uniform.below64 lengths.size lengths.size_pos >>= fun offset =>
        (fun characters => Value.text (String.ofList characters)) <$>
          letters (lengths.length offset) := by
    show lengths.draw >>= (fun count =>
      (fun characters => Value.text (String.ofList characters)) <$> letters count) = _
    rw [lengths.draw_eq]
    rfl
  have forward (offset : Fin lengths.size) :
      Forward ((fun characters => Value.text (String.ofList characters)) <$>
        letters (lengths.length offset)) := fun tape => forward_letters _ tape
  rw [split, Uniform.returns_below64_bind forward]
  simp only [returns_map_iff text_injective, lengths.returns_draw_iff]
  constructor
  · rintro ⟨offset, middle, settles, characters, same, later⟩
    obtain ⟨tape, drawn⟩ := later.exists_eq
    have count : lengths.length offset = characters.length := by rw [← drawn, length_letters]
    exact ⟨characters, middle, same, ⟨offset, count, settles⟩, count ▸ later⟩
  · rintro ⟨characters, middle, same, ⟨offset, count, settles⟩, later⟩
    exact ⟨offset, middle, settles, characters, same, count ▸ later⟩

/-- A string takes a word at least for its length and one for each character. -/
theorem returns_string_le
    (returns : Returns (sample (.string lengths)) words place (.text (String.ofList characters)) last) :
    place + (characters.length + 1) ≤ last := by
  obtain ⟨_, middle, same, first, later⟩ := returns_string_iff.mp returns
  obtain rfl := text_injective same
  obtain ⟨_, _, settles⟩ := lengths.returns_draw_iff.mp first
  have next := settles.lt
  have others := returns_letters_le later
  omega

/-- **A string that takes a word for each draw** is read from independent words. -/
theorem returns_string_once_iff :
    Returns (sample (.string lengths)) words place (.text (String.ofList characters))
        (place + (characters.length + 1)) ↔
      Reads lengths.draw (fun _ : Fin 1 => words place) characters.length ∧
      ∀ index : Fin characters.length,
        Reads letterDraw (fun _ : Fin 1 => words (place + 1 + index)) characters[index] := by
  have next : place + (characters.length + 1) = place + 1 + characters.length := by omega
  rw [returns_string_iff, next, ← returns_letters_iff, lengths.draw_eq,
    ← Uniform.returns_once_iff lengths.length_injective]
  constructor
  · rintro ⟨_, middle, same, first, later⟩
    obtain rfl := text_injective same
    have enough := returns_letters_le later
    obtain ⟨_, _, settles⟩ := (Uniform.returns_view_iff lengths.length_injective).mp first
    have more := settles.lt
    obtain rfl : middle = place + 1 := by omega
    exact ⟨first, later⟩
  · rintro ⟨first, later⟩
    exact ⟨characters, place + 1, rfl, first, later⟩

/-- The words of a block that a string is read from. -/
theorem reads_string_iff {block : Fin (characters.length + 1) → UInt64} :
    Reads (sample (.string lengths)) block (.text (String.ofList characters)) ↔
      Reads lengths.draw (fun _ : Fin 1 => block 0) characters.length ∧
      ∀ index : Fin characters.length,
        Reads letterDraw (fun _ : Fin 1 => block index.succ) characters[index] := by
  have first (words : Nat → UInt64) (place : Nat)
      (stands : ∀ index : Fin (characters.length + 1), words (place + index) = block index) :
      words place = block 0 ∧
        ∀ index : Fin characters.length, words (place + 1 + index) = block index.succ := by
    refine ⟨stands 0, fun index => ?_⟩
    rw [← stands index.succ, Fin.val_succ, Nat.add_assoc, Nat.add_comm 1]
  constructor
  · intro reads
    have stands (index : Fin (characters.length + 1)) : padded block (0 + index) = block index := by
      rw [Nat.zero_add, padded, dif_pos index.isLt]
    have once := returns_string_once_iff.mp (reads (padded block) 0 stands)
    obtain ⟨head, tail⟩ := first (padded block) 0 stands
    simp only [head, tail] at once
    exact once
  · intro each words place stands
    obtain ⟨head, tail⟩ := first words place stands
    refine returns_string_once_iff.mpr ?_
    simp only [head, tail]
    exact each

/-- Whether a word can stand at a place of the block that a string is read from. -/
def StandsFor (lengths : LengthRange) (characters : List Char)
    (index : Fin (characters.length + 1)) (word : UInt64) : Prop :=
  Fin.cases (Reads lengths.draw (fun _ : Fin 1 => word) characters.length)
    (fun later => Reads letterDraw (fun _ : Fin 1 => word) characters[later]) index

/-- **The blocks that a string is read from.** The counts of the words for each place multiply. -/
theorem card_string {count : Nat} (same : characters.length = count)
    (long : lengths.least.toNat ≤ count) (short : count ≤ lengths.most.toNat)
    (inside : ∀ character ∈ characters, IsLetter character) :
    Nat.card { block : Fin (count + 1) → UInt64 //
        Reads (sample (.string lengths)) block (.text (String.ofList characters)) } =
      Uniform.wordsEach lengths.size * (2 ^ 58) ^ count := by
  subst same
  have places (block : Fin (characters.length + 1) → UInt64) :
      Reads (sample (.string lengths)) block (.text (String.ofList characters)) ↔
        ∀ index, StandsFor lengths characters index (block index) := by
    rw [reads_string_iff, Fin.forall_fin_succ]
    rfl
  have first : Nat.card { word // StandsFor lengths characters 0 word } =
      Uniform.wordsEach lengths.size := lengths.fair.even characters.length ⟨long, short⟩
  have each (later : Fin characters.length) :
      Nat.card { word // StandsFor lengths characters later.succ word } = 2 ^ 58 :=
    fair_letterDraw.even characters[later] (inside _ (List.getElem_mem _))
  calc Nat.card { block : Fin (characters.length + 1) → UInt64 //
        Reads (sample (.string lengths)) block (.text (String.ofList characters)) }
      = Nat.card ((index : Fin (characters.length + 1)) →
          { word // StandsFor lengths characters index word }) :=
        Nat.card_congr ((Equiv.subtypeEquivRight places).trans Equiv.subtypePiEquivPi)
    _ = Nat.card { word // StandsFor lengths characters 0 word } *
          ∏ later : Fin characters.length,
            Nat.card { word // StandsFor lengths characters later.succ word } := by
        rw [Nat.card_pi, Fin.prod_univ_succ]
    _ = Uniform.wordsEach lengths.size * (2 ^ 58) ^ characters.length := by
        rw [first, Finset.prod_congr rfl fun later _ => each later, Finset.prod_const,
          Finset.card_univ, Fintype.card_fin]

/-- Every string of the alphabet with a length of the range can be drawn. -/
theorem exists_returns_string (long : lengths.least.toNat ≤ characters.length)
    (short : characters.length ≤ lengths.most.toNat)
    (inside : ∀ character ∈ characters, IsLetter character) :
    ∃ words last,
      Returns (sample (.string lengths)) words 0 (.text (String.ofList characters)) last := by
  have some : 0 < Nat.card { block : Fin (characters.length + 1) → UInt64 //
      Reads (sample (.string lengths)) block (.text (String.ofList characters)) } := by
    rw [card_string rfl long short inside, ← Uniform.multiplicity_eq_wordsEach lengths.size_pos
      lengths.size_le]
    exact Nat.mul_pos (Uniform.multiplicity_pos _ _) (Nat.pow_pos (by decide))
  obtain ⟨block, reads⟩ := (Nat.card_pos_iff.mp some).1
  exact ⟨padded block, _, reads.returns⟩

/-- What is drawn is a string of the alphabet with a length of the range. -/
theorem isLetter_of_returns {value : Value}
    (returns : Returns (sample (.string lengths)) words place value last) :
    ∃ text : String, value = .text text ∧ lengths.least.toNat ≤ text.length ∧
      text.length ≤ lengths.most.toNat ∧ ∀ character ∈ text.toList, IsLetter character := by
  obtain ⟨characters, middle, same, first, later⟩ := returns_string_iff.mp returns
  have ⟨long, short⟩ := lengths.fair.sound _ _ _ _ first
  refine ⟨String.ofList characters, same.symm, ?_⟩
  rw [String.length_ofList, String.toList_ofList]
  exact ⟨long, short, isLetter_of_letters later⟩

end Generator

/-! ### Main statement -/

/-- **Strings are drawn fairly.** A string that is drawn has a length of the range and is made of
letters, digits and underscores. Every such string can be drawn. It takes one word more than it has
characters, and there are as many blocks of so many words for it as there are words for its length,
times `2 ^ 58` for each of its characters; no string is read from fewer words, so no word of such a
block is rejected. All lengths have the same number of words. -/
theorem strings_fair (lengths : LengthRange) :
    (∀ words place value last,
      Returns (Generator.sample (.string lengths)) words place value last →
        ∃ text : String, value = .text text ∧ lengths.least.toNat ≤ text.length ∧
          text.length ≤ lengths.most.toNat ∧
          ∀ character ∈ text.toList, Generator.IsLetter character) ∧
    (∀ text : String, lengths.least.toNat ≤ text.length → text.length ≤ lengths.most.toNat →
      (∀ character ∈ text.toList, Generator.IsLetter character) →
        Nat.card { block : Fin (text.length + 1) → UInt64 //
            Reads (Generator.sample (.string lengths)) block (.text text) } =
          Uniform.wordsEach lengths.size * (2 ^ 58) ^ text.length ∧
        ∃ words last, Returns (Generator.sample (.string lengths)) words 0 (.text text) last) ∧
    (∀ words place text last,
      Returns (Generator.sample (.string lengths)) words place (.text text) last →
        place + (text.length + 1) ≤ last) ∧
    Fair lengths.draw
      (fun count => lengths.least.toNat ≤ count ∧ count ≤ lengths.most.toNat)
      (Uniform.wordsEach lengths.size) := by
  refine ⟨fun _ _ _ _ => Generator.isLetter_of_returns, fun text long short inside => ?_,
    fun words place text last returns => ?_, lengths.fair⟩
  · rw [← text.length_toList] at long short
    have blocks := Generator.card_string text.length_toList long short inside
    have drawn := Generator.exists_returns_string long short inside
    rw [String.ofList_toList] at blocks drawn
    exact ⟨blocks, drawn⟩
  · rw [← String.ofList_toList (s := text)] at returns
    have enough := Generator.returns_string_le returns
    rw [text.length_toList] at enough
    exact enough

theorem Kennel.names_ordered : (1 : UInt64) ≤ 8 := by decide

/-- Names of one to eight characters. -/
def Kennel.names : LengthRange := ⟨1, 8, names_ordered⟩

/-- The blocks of four words that the name of a dog is read from. -/
theorem strings_fair_rex :
    Nat.card { block : Fin 4 → UInt64 //
        Reads (Generator.sample (.string Kennel.names)) block (.text "Rex") } =
      2 ^ 60 * (2 ^ 58) ^ 3 ∧
    ∃ words last, Returns (Generator.sample (.string Kennel.names)) words 0 (.text "Rex") last ∧
      4 ≤ last ∧ "Rex".length ≤ Kennel.names.most.toNat := by
  obtain ⟨sound, counted, least, -⟩ := strings_fair Kennel.names
  have inside : ∀ character ∈ "Rex".toList, Generator.IsLetter character := by
    have letters : "Rex".toList = ['R', 'e', 'x'] := rfl
    unfold Generator.IsLetter
    simp [letters]
  have each : Uniform.wordsEach Kennel.names.size = 2 ^ 60 := by decide
  obtain ⟨blocks, words, last, returns⟩ := counted "Rex" (by decide) (by decide) inside
  obtain ⟨text, same, -, short, -⟩ := sound words 0 _ last returns
  cases same
  rw [each] at blocks
  exact ⟨blocks, words, last, returns, least words 0 _ last returns, short⟩

end Seeding
