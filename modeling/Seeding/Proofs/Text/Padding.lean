/-
**Texts with blanks around them.**

Numbers and words are read from texts that may have blanks around them. `Pads` says so without
reading: a text is its middle, with blanks and nothing else before and after it. A middle without
blanks is what trimming leaves (`pads_iff`), and neither a numeral nor a word has blanks.

* `isNumber_iff` — the texts that are read as a number below a bound: a numeral is at least one
  digit, with any zeros and at most one plus sign in front.
* `isWord_iff` — the texts that are read as one of some words: a capital letter stands for its small
  letter, and no other character for another.
-/
import Seeding.Text.Blank
import Seeding.Text.Numeral

namespace Seeding.Text

/-! ### Grammar -/

/-- A text that has blanks and nothing else around a middle. -/
def Pads (text : String) (middle : List Char) : Prop :=
  ∃ before after, text.toList = before ++ middle ++ after ∧
    (∀ character ∈ before, isBlank character = true) ∧
    ∀ character ∈ after, isBlank character = true

/-- A numeral for a number: digits, at least one, with at most one plus sign in front. -/
def Denotes (numeral : List Char) (number : Nat) : Prop :=
  ∃ digits, (numeral = digits ∨ numeral = '+' :: digits) ∧ digits ≠ [] ∧
    (∀ digit ∈ digits, digit.isDigit = true) ∧ Nat.ofDigitChars 10 digits 0 = number

/-- A text that is a number below a bound, with blanks around it. -/
def IsNumber (bound : Nat) (text : String) (number : Nat) : Prop :=
  number < bound ∧ ∃ numeral, Pads text numeral ∧ Denotes numeral number

/-- A text that is one of some words in letters of any case, with blanks around it. -/
def IsWord (words : List String) (text : String) : Prop :=
  ∃ letters, Pads text letters ∧ String.ofList (letters.map Char.toLower) ∈ words

/-! ### Blanks -/

/-- Characters of which none is blank. -/
def Solid (characters : List Char) : Prop :=
  ∀ character ∈ characters, isBlank character = false

instance (characters : List Char) : Decidable (Solid characters) :=
  List.decidableBAll (fun character => isBlank character = false) characters

/-- No blank lies between the space and the next line. -/
theorem isBlank_eq_false {character : Char} (above : 0x20 < character.toNat)
    (below : character.toNat < 0x85) : isBlank character = false := by
  refine List.any_eq_false.mpr fun range member => ?_
  rw [Bool.and_eq_true, decide_eq_true_eq, decide_eq_true_eq]
  rintro ⟨first, last⟩
  simp only [blankRanges, List.mem_cons, List.not_mem_nil, or_false] at member
  rcases member with rfl | rfl | rfl | rfl | rfl | rfl | rfl | rfl | rfl | rfl <;>
    (simp only at first last; omega)

/-- A text may stand without blanks around it. -/
theorem pads_self (text : String) : Pads text text.toList :=
  ⟨[], [], by rw [List.nil_append, List.append_nil], fun _ member => absurd member
    List.not_mem_nil, fun _ member => absurd member List.not_mem_nil⟩

/-- What trimming leaves has only blanks around it. -/
theorem pads_trim (text : String) : Pads text (trim text.toList) := by
  have front := List.takeWhile_append_dropWhile (p := isBlank) (l := text.toList)
  have back := List.takeWhile_append_dropWhile (p := isBlank)
    (l := (text.toList.dropWhile isBlank).reverse)
  refine ⟨text.toList.takeWhile isBlank,
    ((text.toList.dropWhile isBlank).reverse.takeWhile isBlank).reverse, ?_, ?_, ?_⟩
  · rw [trim, List.append_assoc, ← List.reverse_append, back, List.reverse_reverse, front]
  · exact List.all_eq_true.mp List.all_takeWhile
  · intro character member
    exact List.all_eq_true.mp List.all_takeWhile character (List.mem_reverse.mp member)

/-- Blanks before characters that do not start with one are dropped, and no others. -/
theorem dropWhile_blanks {blanks solid : List Char}
    (blank : ∀ character ∈ blanks, isBlank character = true) (started : Solid solid)
    (rest : List Char) (given : solid ≠ []) :
    (blanks ++ (solid ++ rest)).dropWhile isBlank = solid ++ rest := by
  obtain ⟨first, others, rfl⟩ := List.exists_cons_of_ne_nil given
  rw [List.dropWhile_append_of_pos blank, List.cons_append, List.dropWhile_cons_of_neg]
  rw [started first List.mem_cons_self]
  exact Bool.false_ne_true

/-- A middle without blanks is what trimming leaves. -/
theorem pads_iff {text : String} {middle : List Char} (solid : Solid middle) :
    Pads text middle ↔ trim text.toList = middle := by
  constructor
  · rintro ⟨before, after, split, blank, blank'⟩
    rw [split, trim]
    by_cases given : middle = []
    · have none : (after ++ []).dropWhile isBlank = [].dropWhile isBlank :=
        List.dropWhile_append_of_pos blank'
      rw [List.append_nil] at none
      rw [given, List.append_nil, List.dropWhile_append_of_pos blank, none]
      rfl
    · have turned : Solid middle.reverse := fun character member =>
        solid character (List.mem_reverse.mp member)
      have blanks : ∀ character ∈ after.reverse, isBlank character = true :=
        fun character member => blank' character (List.mem_reverse.mp member)
      have back := dropWhile_blanks blanks turned [] (by simpa using given)
      rw [List.append_nil] at back
      rw [List.append_assoc, dropWhile_blanks blank solid after given, List.reverse_append, back,
        List.reverse_reverse]
  · rintro rfl
    exact pads_trim text

/-! ### Numbers -/

theorem isBlank_digit {digit : Char} (decimal : digit.isDigit = true) : isBlank digit = false := by
  simp only [Char.isDigit, Bool.and_eq_true, decide_eq_true_eq] at decimal
  have above : 48 ≤ digit.toNat := decimal.1
  have below : digit.toNat ≤ 57 := decimal.2
  exact isBlank_eq_false (by omega) (by omega)

theorem Denotes.solid {numeral : List Char} {number : Nat} (denotes : Denotes numeral number) :
    Solid numeral := by
  obtain ⟨digits, shape, _, decimal, _⟩ := denotes
  have solid : Solid digits := fun digit member => isBlank_digit (decimal digit member)
  rcases shape with rfl | rfl
  · exact solid
  · exact List.forall_mem_cons.mpr ⟨by decide, solid⟩

/-- The digits of a numeral have at most one plus sign in front. -/
theorem unsigned_shape (numeral : List Char) :
    numeral = unsigned numeral ∨ numeral = '+' :: unsigned numeral := by
  unfold unsigned
  split
  · exact Or.inr rfl
  · exact Or.inl rfl

theorem unsigned_of_shape {numeral digits : List Char}
    (shape : numeral = digits ∨ numeral = '+' :: digits)
    (decimal : ∀ digit ∈ digits, digit.isDigit = true) : unsigned numeral = digits := by
  rcases shape with rfl | rfl
  · unfold unsigned
    split
    · -- the sign would be a digit
      cases decimal '+' List.mem_cons_self
    · rfl
  · rfl

/-- Digits only make a number larger. -/
theorem le_ofDigitChars (digits : List Char) (number : Nat) :
    number ≤ Nat.ofDigitChars 10 digits number := by
  induction digits generalizing number with
  | nil => simp [Nat.ofDigitChars_nil]
  | cons digit rest ih =>
    rw [Nat.ofDigitChars_cons]
    exact Nat.le_trans (by omega) (ih _)

/-- Digits can be appended exactly where all are digits and the number stays below the bound. -/
theorem appendDigits_eq_ok_iff {bound number result : Nat} {digits : List Char}
    (below : number < bound) :
    appendDigits bound number digits = .ok result ↔
      (∀ digit ∈ digits, digit.isDigit = true) ∧ Nat.ofDigitChars 10 digits number = result ∧
        result < bound := by
  induction digits generalizing number with
  | nil =>
    rw [appendDigits, Except.ok.injEq, Nat.ofDigitChars_nil]
    constructor
    · rintro rfl
      exact ⟨fun _ member => absurd member List.not_mem_nil, rfl, below⟩
    · exact fun ⟨_, same, _⟩ => same
  | cons digit rest ih =>
    rw [appendDigits, List.forall_mem_cons, Nat.ofDigitChars_cons]
    by_cases known : digit.isDigit = true
    · rw [if_neg (by simp [known])]
      by_cases small : 10 * number + (digit.toNat - '0'.toNat) < bound
      · rw [if_pos small, ih small]
        simp only [known, true_and]
      · rw [if_neg small]
        constructor
        · rintro ⟨⟩
        · -- further digits would not bring the number below the bound again
          rintro ⟨-, rfl, fits⟩
          exact absurd (Nat.lt_of_le_of_lt (le_ofDigitChars rest _) fits) small
    · rw [if_pos (by simp [known])]
      constructor
      · rintro ⟨⟩
      · exact fun ⟨⟨decimal, _⟩, _⟩ => absurd decimal known

/-- **What is read as a number below a bound.** -/
theorem readBelow_eq_ok_iff {bound number : Nat} {numeral : List Char} (positive : 0 < bound) :
    readBelow bound numeral = .ok number ↔ number < bound ∧ Denotes numeral number := by
  unfold readBelow
  constructor
  · intro read
    split at read
    · cases read
    · split at read
      · cases read
      · rename_i given
        obtain ⟨decimal, same, below⟩ := (appendDigits_eq_ok_iff positive).mp read
        exact ⟨below, _, unsigned_shape numeral, given, decimal, same⟩
  · rintro ⟨below, digits, shape, given, decimal, rfl⟩
    have digits_eq := unsigned_of_shape shape decimal
    have some : numeral ≠ [] := by
      rintro rfl
      exact given digits_eq.symm
    rw [if_neg some, digits_eq, if_neg given]
    exact (appendDigits_eq_ok_iff positive).mpr ⟨decimal, rfl, below⟩

/-- **Numbers are read from their numerals**, and from nothing else. -/
theorem isNumber_iff {bound : Nat} {text : String} {number : Nat} (positive : 0 < bound) :
    IsNumber bound text number ↔ readBelow bound (trim text.toList) = .ok number := by
  rw [readBelow_eq_ok_iff positive, IsNumber]
  refine and_congr_right fun _ => ⟨?_, fun denotes => ⟨_, pads_trim text, denotes⟩⟩
  rintro ⟨numeral, pads, denotes⟩
  rwa [(pads_iff denotes.solid).mp pads]

/-- A number that is written in decimal is a numeral of itself. -/
theorem isNumber_toString {bound number : Nat} (below : number < bound) :
    IsNumber bound (toString number) number := by
  have digits : (toString number).toList = Nat.toDigits 10 number := by
    rw [Nat.toString_eq_ofList_toDigits, String.toList_ofList]
  refine ⟨below, _, pads_self _, (toString number).toList, Or.inl rfl, ?_⟩
  rw [digits]
  exact ⟨Nat.toDigits_ne_nil,
    fun _ member => Nat.isDigit_of_mem_toDigits (by decide) (by decide) member,
    Nat.ofDigitChars_toDigits (by decide) (by decide)⟩

/-! ### Words -/

/-- A blank is no letter, so it has no other case. -/
theorem toLower_of_isBlank {character : Char} (blank : isBlank character = true) :
    character.toLower = character := by
  refine dif_neg fun capital => ?_
  have above : 65 ≤ character.toNat := capital.1
  have below : character.toNat ≤ 90 := capital.2
  rw [isBlank_eq_false (by omega) (by omega)] at blank
  cases blank

/-- **Words are read from their letters**, and from nothing else. -/
theorem isWord_iff {words : List String} (solid : ∀ word ∈ words, Solid word.toList)
    {text : String} : IsWord words text ↔ folded text ∈ words := by
  refine ⟨?_, fun member => ⟨_, pads_trim text, member⟩⟩
  rintro ⟨letters, pads, member⟩
  have bare : Solid letters := by
    intro letter inside
    rw [← Bool.not_eq_true]
    intro blank
    -- a blank among the letters would stand in the word as it is
    have kept : letter ∈ (String.ofList (letters.map Char.toLower)).toList := by
      rw [String.toList_ofList, ← toLower_of_isBlank blank]
      exact List.mem_map_of_mem inside
    rw [solid _ member letter kept] at blank
    cases blank
  rwa [folded, (pads_iff bare).mp pads]

end Seeding.Text
