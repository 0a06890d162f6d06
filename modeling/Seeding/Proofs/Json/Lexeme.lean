/-
**Strings and whole numbers are read from the way they are written.**

A rendered string is its characters, each as it is or escaped; a rendered number is its sign and its
digits. What follows decides nothing about a string, but a number is read as far as it goes
(`Ends`).

* `text_flatMap` — a string after its opening quote.
* `whole_toString` — a whole number of either sign.
-/
import Seeding.Json
import Seeding.Json.Reader
import Mathlib

namespace Seeding.Json.Reader

/-- Reads a whole number of either sign. -/
def whole : Reader Int := do
  let sign ← option ['-']
  let found ← numeral .ended
  if found.fraction.isSome ∨ found.exponent.isSome then throw .unsuitable
  else pure (if sign.isSome then -(denoted found.whole : Int) else denoted found.whole)

/-! ### Sequences of readers -/

section Sequences

variable {α β : Type} {reader : Reader α} {characters rest : List Char} {result : α}

theorem bind_of_ok (next : α → Reader β) (read : reader characters = .ok (result, rest)) :
    (reader >>= next) characters = next result rest := by
  show (reader characters >>= fun pair => next pair.1 pair.2) = next result rest
  rw [read]
  rfl

theorem map_of_ok (view : α → β) (read : reader characters = .ok (result, rest)) :
    (view <$> reader) characters = .ok (view result, rest) := by
  rw [map_eq_pure_bind, bind_of_ok _ read]
  rfl

theorem peek_of_solid {character : Char} (solid : isSpace character = false) :
    peek (character :: rest) = .ok (some character, character :: rest) := by
  unfold peek
  rw [List.dropWhile_cons_of_neg (by rw [solid]; exact Bool.false_ne_true)]
  rfl

/-- A reader that looks at the next token first. -/
theorem peek_bind {character : Char} (next : Option Char → Reader β)
    (solid : isSpace character = false) :
    (peek >>= next) (character :: rest) = next (some character) (character :: rest) :=
  bind_of_ok next (peek_of_solid solid)

theorem advance_bind {character : Char} (next : Unit → Reader β) :
    (advance >>= next) (character :: rest) = next () rest :=
  bind_of_ok next rfl

theorem expect_of_solid {character : Char} (solid : isSpace character = false) :
    expect character (character :: rest) = .ok ((), rest) := by
  unfold expect
  rw [peek_bind _ solid]
  dsimp only
  rw [if_pos rfl]
  rfl

theorem letters_append (word : List Char) : letters word (word ++ rest) = .ok ((), rest) := by
  induction word with
  | nil => rfl
  | cons letter others ih =>
    rw [List.cons_append, letters]
    exact (if_pos rfl).trans ih

end Sequences

/-! ### Strings -/

section Strings

variable {rest : List Char}

/-- A text of four characters or more has four bytes or more. -/
theorem four_le_utf8ByteSize (first second third fourth : Char) :
    4 ≤ (String.ofList (first :: second :: third :: fourth :: rest)).utf8ByteSize := by
  simp only [String.ofList_cons, String.utf8ByteSize_append, String.utf8ByteSize_singleton]
  have := first.utf8Size_pos
  have := second.utf8Size_pos
  have := third.utf8Size_pos
  have := fourth.utf8Size_pos
  omega

theorem hexValue?_digitChar :
    ∀ value < 16, Text.hexValue? (Nat.digitChar value) = some value := by
  decide

/-- The code of a character below the space, as its escape has it. -/
theorem codeUnit_escape {code : Nat} (below : code < 0x20) :
    codeUnit ('0' :: '0' :: Nat.digitChar (code / 16) :: Nat.digitChar (code % 16) :: rest) =
      .ok code := by
  have zero : Text.hexValue? '0' = some 0 := by decide
  have high := hexValue?_digitChar (code / 16) (by omega)
  have low := hexValue?_digitChar (code % 16) (by omega)
  unfold codeUnit
  rw [if_neg (Nat.not_lt.mpr (four_le_utf8ByteSize _ _ _ _))]
  simp only [List.take_succ_cons, List.take_zero, List.mapM_cons, List.mapM_nil, zero, high, low,
    Option.pure_def, Option.bind_eq_bind, Option.bind_some]
  exact congrArg Except.ok (by omega)

/-- An escape is read as the character that its letters stand for. -/
theorem content_of_escaped (letters : List Char) {character : Char}
    (stands : escaped (letters ++ rest) = .ok (character, letters.length)) :
    content ('\\' :: (letters ++ rest)) =
      (content rest).map fun found => (character :: found.1, found.2) := by
  rw [content, stands]
  show (content ((letters ++ rest).drop letters.length) >>= _) = _
  rw [List.drop_left]
  cases content rest <;> rfl

theorem escaped_unit {character : Char} (below : character.toNat < 0x20) :
    escaped ('u' :: '0' :: '0' :: Nat.digitChar (character.toNat / 16) ::
      Nat.digitChar (character.toNat % 16) :: rest) = .ok (character, 5) := by
  have low : isLow character.toNat = false := by
    rw [isLow, Bool.and_eq_false_iff, decide_eq_false_iff_not]
    exact Or.inl (by omega)
  have high : isHigh character.toNat = false := by
    rw [isHigh, Bool.and_eq_false_iff, decide_eq_false_iff_not]
    exact Or.inl (by omega)
  rw [escaped, codeUnit_escape below]
  dsimp only [bind, Except.bind]
  rw [low, high, Char.ofNat_toNat]
  rfl

/-- A character is read from the way it is written. -/
theorem content_escape (character : Char) :
    content (escape character ++ rest) =
      (content rest).map fun found => (character :: found.1, found.2) := by
  unfold escape
  split_ifs with quote backslash back form line return_ tab control
  · exact content_of_escaped ['"'] (by rw [quote]; rfl)
  · exact content_of_escaped ['\\'] (by rw [backslash]; rfl)
  · exact content_of_escaped ['b'] (by rw [back]; rfl)
  · exact content_of_escaped ['f'] (by rw [form]; rfl)
  · exact content_of_escaped ['n'] (by rw [line]; rfl)
  · exact content_of_escaped ['r'] (by rw [return_]; rfl)
  · exact content_of_escaped ['t'] (by rw [tab]; rfl)
  · exact content_of_escaped ['u', '0', '0', _, _] (escaped_unit control)
  · rw [List.singleton_append, content, if_neg control]
    · cases content rest <;> rfl
    · exact quote
    · exact backslash

theorem content_flatMap (characters : List Char) :
    content (characters.flatMap escape ++ '"' :: rest) = .ok (characters, rest) := by
  induction characters with
  | nil => rw [List.flatMap_nil, List.nil_append, content]
  | cons character others ih =>
    rw [List.flatMap_cons, List.append_assoc, content_escape, ih]
    rfl

theorem renderString_append (content : String) :
    renderString content ++ rest = '"' :: (content.toList.flatMap escape ++ '"' :: rest) := by
  unfold renderString
  rw [List.cons_append, List.cons_append, List.append_assoc, List.singleton_append]

/-- A string is read from the way it is written, after its opening quote. -/
theorem text_flatMap (content : String) :
    text (content.toList.flatMap escape ++ '"' :: rest) = .ok (content, rest) := by
  unfold text
  rw [content_flatMap]
  exact congrArg (fun read => Except.ok (read, rest)) String.ofList_toList

end Strings

/-! ### Numbers -/

section Numbers

/-- Characters with which no number goes on. -/
def Ends (rest : List Char) : Prop :=
  ∀ character ∈ rest.head?, character.isDigit = false ∧ character ∉ ['.', 'e', 'E']

variable {rest : List Char}

theorem digits_append {found : List Char} (decimal : ∀ digit ∈ found, digit.isDigit = true)
    (ends : Ends rest) : digits (found ++ rest) = .ok (found, rest) := by
  unfold digits
  have stop : rest.takeWhile Char.isDigit = [] ∧ rest.dropWhile Char.isDigit = rest := by
    cases rest with
    | nil => exact ⟨rfl, rfl⟩
    | cons character others =>
      have other := (ends character rfl).1
      exact ⟨List.takeWhile_cons_of_neg (by simp [other]),
        List.dropWhile_cons_of_neg (by simp [other])⟩
  rw [List.takeWhile_append_of_pos decimal, List.dropWhile_append_of_pos decimal, stop.1, stop.2,
    List.append_nil]

theorem option_of_ends {choices : List Char} (ends : Ends rest)
    (known : choices ⊆ ['.', 'e', 'E']) :
    option choices rest = .ok (none, rest) := by
  cases rest with
  | nil => rfl
  | cons character others =>
    have other : choices.contains character = false := by
      rw [Bool.eq_false_iff, ne_eq, List.contains_iff_mem]
      exact fun member => (ends character rfl).2 (known member)
    show (if choices.contains character = true then _ else _) = _
    rw [other]
    rfl

/-- Digits that make a whole number: at least one, and no zero in front of others. -/
structure IsWhole (found : List Char) : Prop where
  decimal : ∀ digit ∈ found, digit.isDigit = true
  given : found ≠ []
  canonical : 1 < found.length → found.head? ≠ some '0'

theorem numeral_append {found : List Char} (shape : IsWhole found) (ends : Ends rest) :
    numeral .ended (found ++ rest) =
      .ok ({ whole := found, fraction := none, exponent := none }, rest) := by
  have some : someDigits .ended (found ++ rest) = .ok (found, rest) := by
    unfold someDigits
    rw [bind_of_ok _ (digits_append shape.decimal ends), if_neg shape.given]
    rfl
  have first : wholeDigits .ended (found ++ rest) = .ok (found, rest) := by
    unfold wholeDigits
    rw [bind_of_ok _ some, if_neg fun ⟨long, zero⟩ => shape.canonical long zero]
    rfl
  unfold numeral
  rw [bind_of_ok _ first, bind_of_ok _ (option_of_ends ends (by decide))]
  dsimp only
  rw [pure_bind, bind_of_ok _ (option_of_ends ends (by decide))]
  rfl

/-- A number above zero has no zero in front. -/
theorem head?_toDigits {number : Nat} (positive : 0 < number) :
    (Nat.toDigits 10 number).head? ≠ some '0' := by
  induction number using Nat.strong_induction_on with
  | _ number ih =>
    by_cases small : number < 10
    · have other : ∀ digit < 10, 0 < digit → some (Nat.digitChar digit) ≠ some '0' := by decide
      rw [Nat.toDigits_of_lt_base small]
      exact other number small positive
    · have before := ih (number / 10) (by omega) (by omega)
      obtain ⟨first, others, same⟩ := List.exists_cons_of_ne_nil
        (Nat.toDigits_ne_nil (b := 10) (n := number / 10))
      rw [same] at before
      rw [Nat.toDigits_of_base_le (by omega) (by omega), same]
      exact before

theorem isWhole_toDigits (number : Nat) : IsWhole (Nat.toDigits 10 number) where
  decimal _ member := Nat.isDigit_of_mem_toDigits (by decide) (by decide) member
  given := Nat.toDigits_ne_nil
  canonical long := by
    refine head?_toDigits (Nat.pos_of_ne_zero ?_)
    rintro rfl
    exact absurd long (by decide)

theorem option_sign {found : List Char} (shape : IsWhole found) :
    option ['-'] (found ++ rest) = .ok (none, found ++ rest) := by
  obtain ⟨first, others, rfl⟩ := List.exists_cons_of_ne_nil shape.given
  have other : ['-'].contains first = false := by
    rw [Bool.eq_false_iff, ne_eq, List.contains_iff_mem, List.mem_singleton]
    rintro rfl
    exact absurd (shape.decimal '-' List.mem_cons_self) (by decide)
  show (if ['-'].contains first = true then _ else _) = _
  rw [other]
  rfl

theorem denoted_toDigits (number : Nat) : denoted (Nat.toDigits 10 number) = number :=
  Nat.ofDigitChars_toDigits (by decide) (by decide)

theorem toList_ofNat (natural : Nat) :
    (toString (Int.ofNat natural)).toList = Nat.toDigits 10 natural :=
  String.toList_ofList

theorem toList_negSucc (natural : Nat) :
    (toString (Int.negSucc natural)).toList = '-' :: Nat.toDigits 10 (natural + 1) := by
  show ("-" ++ (natural + 1).repr).toList = _
  rw [String.toList_append, Nat.repr, String.toList_ofList, String.toList_ofList]
  rfl

/-- A whole number of either sign is read from the way it is written. -/
theorem whole_toString (number : Int) (ends : Ends rest) :
    whole ((toString number).toList ++ rest) = .ok (number, rest) := by
  unfold whole
  cases number with
  | ofNat natural =>
    have shape := isWhole_toDigits natural
    rw [toList_ofNat, bind_of_ok _ (option_sign shape), bind_of_ok _ (numeral_append shape ends)]
    exact congrArg (fun read : Nat => Except.ok ((read : Int), rest)) (denoted_toDigits natural)
  | negSucc natural =>
    have shape := isWhole_toDigits (natural + 1)
    have sign : option ['-'] ('-' :: (Nat.toDigits 10 (natural + 1) ++ rest)) =
        .ok (some '-', Nat.toDigits 10 (natural + 1) ++ rest) := rfl
    rw [toList_negSucc, List.cons_append, bind_of_ok _ sign,
      bind_of_ok _ (numeral_append shape ends)]
    exact congrArg (fun read : Nat => Except.ok (-(read : Int), rest))
      (denoted_toDigits (natural + 1))

end Numbers

end Seeding.Json.Reader
