/-
**Tokens of statements.**

A server divides the text of a statement into tokens before it looks at their order: words,
identifiers between double quotes, numbered placeholders and marks, with blank characters where
tokens would run together. Between its quotes an identifier is any text in which each quote is
doubled; a single quote ends it. Tokens of other kinds (numbers, strings, operators, comments) do
not occur in what this library sends, and the reader refuses them.

* `delimited?_doubled` — **the rule of delimited identifiers**: a name is read back from its
  doubled form, whatever characters it holds and whatever follows the closing quote.
* `Spells` — a text that is read as the same tokens wherever it stands; such texts can be put
  together (`Spells.append`, `spells_separated`).
-/
import Seeding.Postgres.Statement

namespace Seeding.Postgres

/-- A token of a statement. -/
inductive Token where
  /-- A word outside quotes, such as a key word. -/
  | word (letters : String)
  /-- An identifier between double quotes; the name is what it stands for. -/
  | identifier (name : String)
  /-- A dollar sign and the number of a parameter. -/
  | placeholder (number : Nat)
  /-- A parenthesis or a comma. -/
  | mark (sign : Char)
  deriving DecidableEq, Repr

namespace Token

/-! ### The reader -/

/-- The name of an identifier after its opening quote, and what follows the closing one. -/
def delimited? : List Char → Option (List Char × List Char)
  | [] => none
  | '"' :: '"' :: rest => (delimited? rest).map fun (name, following) => ('"' :: name, following)
  | '"' :: rest => some ([], rest)
  | character :: rest =>
    (delimited? rest).map fun (name, following) => (character :: name, following)

/-- The name that a text stands for if the text is one delimited identifier. -/
def unquoted? : List Char → Option String
  | '"' :: rest =>
    match delimited? rest with
    | some (name, []) => some (String.ofList name)
    | _ => none
  | _ => none

/-- Whether a character separates tokens and is part of none. -/
def isSpace (character : Char) : Bool :=
  character ∈ [' ', '\t', '\n', '\r', '\x0b', '\x0c']

/-- Whether a character is a token of its own. -/
def isMark (character : Char) : Bool := character ∈ ['(', ')', ',']

/-- Whether a character ends the token before it. -/
def isBreak (character : Char) : Bool := isSpace character || isMark character

/-- Whether a word can begin with a character: an ASCII letter, an underscore or anything beyond
ASCII. -/
def opensWord (character : Char) : Bool :=
  character.isAlpha || character == '_' || 0x80 ≤ character.toNat

/-- Whether a word can go on with a character. -/
def continuesWord (character : Char) : Bool :=
  opensWord character || character.isDigit || character == '$'

/-- The token that begins with a character, and what follows it. -/
def next? (first : Char) (rest : List Char) : Option (Token × List Char) :=
  if first = '"' then
    (delimited? rest).map fun (name, following) => (identifier (String.ofList name), following)
  else if first = '$' then
    if rest.takeWhile Char.isDigit = [] then none
    else some (placeholder (Nat.ofDigitChars 10 (rest.takeWhile Char.isDigit) 0),
      rest.dropWhile Char.isDigit)
  else if isMark first then some (mark first, rest)
  else if opensWord first then
    some (word (String.ofList (first :: rest.takeWhile continuesWord)),
      rest.dropWhile continuesWord)
  else none

/-- What follows an identifier is no longer than what followed its opening quote. -/
theorem length_delimited? {text name following : List Char}
    (read : delimited? text = some (name, following)) : following.length ≤ text.length := by
  fun_induction delimited? text generalizing name with
  | case1 => cases read
  | case2 rest ih | case4 character rest _ _ ih =>
    obtain ⟨⟨others, left⟩, found, same⟩ := Option.map_eq_some_iff.mp read
    obtain ⟨-, rfl⟩ := Prod.mk.inj same
    have shorter := ih found
    simp only [List.length_cons]
    omega
  | case3 rest =>
    obtain ⟨-, rfl⟩ := Prod.mk.inj (Option.some.inj read)
    exact Nat.le_succ _

/-- What follows a token is no longer than what followed its first character. -/
theorem length_next? {first : Char} {rest following : List Char} {token : Token}
    (read : next? first rest = some (token, following)) : following.length ≤ rest.length := by
  unfold next? at read
  split at read
  · obtain ⟨⟨name, left⟩, found, same⟩ := Option.map_eq_some_iff.mp read
    obtain ⟨-, rfl⟩ := Prod.mk.inj same
    exact length_delimited? found
  · split at read
    · split at read
      · cases read
      · obtain ⟨-, rfl⟩ := Prod.mk.inj (Option.some.inj read)
        exact (List.dropWhile_suffix _).length_le
    · split at read
      · obtain ⟨-, rfl⟩ := Prod.mk.inj (Option.some.inj read)
        exact Nat.le_refl _
      · split at read
        · obtain ⟨-, rfl⟩ := Prod.mk.inj (Option.some.inj read)
          exact (List.dropWhile_suffix _).length_le
        · cases read

/-- The tokens of a text, from its first character to its last. -/
def read? (text : List Char) : Option (List Token) :=
  match text with
  | [] => some []
  | first :: rest =>
    if isSpace first then read? rest
    else
      match _found : next? first rest with
      | none => none
      | some (token, following) => (read? following).map (token :: ·)
termination_by text.length
decreasing_by
  · simp
  · have shorter := length_next? _found
    simp only [List.length_cons]
    omega

theorem read?_space {first : Char} (space : isSpace first = true) (rest : List Char) :
    read? (first :: rest) = read? rest := by
  rw [read?, if_pos space]

theorem read?_next {first : Char} {rest following : List Char} {token : Token}
    (solid : isSpace first = false) (found : next? first rest = some (token, following)) :
    read? (first :: rest) = (read? following).map (token :: ·) := by
  rw [read?, if_neg (by simp [solid])]
  split
  · rename_i missing
    rw [found] at missing
    cases missing
  · rename_i same
    obtain ⟨rfl, rfl⟩ := Prod.mk.inj (Option.some.inj (found.symm.trans same))
    rfl

/-! ### Delimited identifiers -/

/-- A name with its quotes doubled. -/
def doubled (name : List Char) : List Char :=
  name.flatMap fun character => if character = '"' then ['"', '"'] else [character]

/-- **A name is read back from its doubled form**, and reading stops at the closing quote. -/
theorem delimited?_doubled (name : List Char) {following : List Char}
    (single : following.head? ≠ some '"') :
    delimited? (doubled name ++ '"' :: following) = some (name, following) := by
  induction name with
  | nil =>
    cases following with
    | nil => rfl
    | cons character rest =>
      have other : character ≠ '"' := fun same => single (congrArg some same)
      show delimited? ('"' :: character :: rest) = _
      rw [delimited?]
      simpa using other
  | cons character rest ih =>
    by_cases quote : character = '"'
    · have written : doubled (character :: rest) = '"' :: '"' :: doubled rest := by
        simp [doubled, quote]
      rw [written, List.cons_append, List.cons_append, delimited?, ih, quote]
      rfl
    · have written : doubled (character :: rest) = character :: doubled rest := by
        simp [doubled, quote]
      rw [written, List.cons_append, delimited?, ih]
      · rfl
      · exact fun _ same => absurd same quote
      · exact fun same => absurd same quote

/-! ### Texts that can be put together -/

/-- What cannot carry on a token before it: nothing, or what begins with a space or a mark. -/
def Breaks (following : List Char) : Prop :=
  ∀ character ∈ following.head?, isBreak character = true

/-- A text is read as these tokens wherever it stands before a break. -/
def Spells (text : List Char) (tokens : List Token) : Prop :=
  ∀ following, Breaks following → read? (text ++ following) = (read? following).map (tokens ++ ·)

theorem breaks_cons {character : Char} (ends : isBreak character = true) (rest : List Char) :
    Breaks (character :: rest) := by
  rintro _ ⟨⟩
  exact ends

/-- A space or a mark opens and continues nothing else. -/
theorem apart_of_isBreak {character : Char} (ends : isBreak character = true) :
    character ≠ '"' ∧ character ≠ '$' ∧ character.isDigit = false ∧
      continuesWord character = false := by
  simp only [isBreak, isSpace, isMark, Bool.or_eq_true, List.mem_cons, List.not_mem_nil, or_false,
    decide_eq_true_eq] at ends
  rcases ends with (rfl | rfl | rfl | rfl | rfl | rfl) | (rfl | rfl | rfl) <;> decide

/-- What opens a word is neither a space nor a mark. -/
theorem solid_of_opensWord {character : Char} (opens : opensWord character = true) :
    isSpace character = false ∧ isMark character = false := by
  have solid : isBreak character = false := by
    refine Bool.eq_false_iff.mpr fun ends => ?_
    have apart := (apart_of_isBreak ends).2.2.2
    simp [continuesWord, opens] at apart
  simpa [isBreak] using solid

/-- A run of characters ends at a break, if the run does not go on with spaces and marks. -/
theorem takeWhile_append_break {goesOn : Char → Bool} {run following : List Char}
    (all : ∀ character ∈ run, goesOn character = true)
    (stops : ∀ character, isBreak character = true → goesOn character = false)
    (breaks : Breaks following) :
    (run ++ following).takeWhile goesOn = run ∧ (run ++ following).dropWhile goesOn = following := by
  rw [List.takeWhile_append_of_pos all, List.dropWhile_append_of_pos all]
  cases following with
  | nil => exact ⟨List.append_nil run, rfl⟩
  | cons character rest =>
    have stopped := stops character (breaks character rfl)
    simp [stopped]

theorem Breaks.append {text following : List Char} (first : Breaks text)
    (second : Breaks following) : Breaks (text ++ following) := by
  cases text with
  | nil => exact second
  | cons character rest => exact first

theorem Spells.append {text others : List Char} {tokens tokens' : List Token}
    (first : Spells text tokens) (breaks : Breaks others) (second : Spells others tokens') :
    Spells (text ++ others) (tokens ++ tokens') := by
  intro following next
  rw [List.append_assoc, first _ (breaks.append next), second _ next, Option.map_map]
  simp only [Function.comp_def, List.append_assoc]

theorem spells_nil : Spells [] [] := fun following _ => by simp

theorem Spells.space {text : List Char} {tokens : List Token} (spelled : Spells text tokens) :
    Spells (' ' :: text) tokens := by
  intro following breaks
  rw [List.cons_append, read?_space (by decide), spelled _ breaks]

theorem Spells.mark {sign : Char} {text : List Char} {tokens : List Token}
    (isSign : isMark sign = true) (spelled : Spells text tokens) :
    Spells (sign :: text) (.mark sign :: tokens) := by
  intro following breaks
  have ends : isBreak sign = true := by simp [isBreak, isSign]
  obtain ⟨notQuote, notDollar, -, -⟩ := apart_of_isBreak ends
  have solid : isSpace sign = false := by
    simp only [isMark, List.mem_cons, List.not_mem_nil, or_false, decide_eq_true_eq] at isSign
    rcases isSign with rfl | rfl | rfl <;> decide
  have found : next? sign (text ++ following) = some (.mark sign, text ++ following) := by
    rw [next?, if_neg notQuote, if_neg notDollar, if_pos isSign]
  rw [List.cons_append, read?_next solid found, spelled _ breaks, Option.map_map]
  rfl

theorem spells_word {letters : String} {first : Char} {rest : List Char}
    (written : letters.toList = first :: rest) (opens : opensWord first = true)
    (goesOn : rest.all continuesWord = true) : Spells letters.toList [.word letters] := by
  intro following breaks
  obtain ⟨solid, noMark⟩ := solid_of_opensWord opens
  have notQuote : first ≠ '"' := by
    rintro rfl
    cases opens
  have notDollar : first ≠ '$' := by
    rintro rfl
    cases opens
  obtain ⟨taken, dropped⟩ := takeWhile_append_break (List.all_eq_true.mp goesOn)
    (fun _ ends => (apart_of_isBreak ends).2.2.2) breaks
  have found : next? first (rest ++ following) = some (.word letters, following) := by
    rw [next?, if_neg notQuote, if_neg notDollar, if_neg (by simp [noMark]), if_pos opens, taken,
      dropped, ← written, String.ofList_toList]
  rw [written, List.cons_append, read?_next solid found]
  rfl

/-- A quoted identifier is read as its name. -/
theorem spells_identifier (name : String) : Spells (quoteIdentifier name) [.identifier name] := by
  intro following breaks
  have single : following.head? ≠ some '"' := fun quote =>
    (apart_of_isBreak (breaks '"' quote)).1 rfl
  have found : next? '"' (doubled name.toList ++ '"' :: following) =
      some (.identifier name, following) := by
    rw [next?, if_pos rfl, delimited?_doubled _ single, Option.map_some]
    simp only [String.ofList_toList]
  have written : quoteIdentifier name ++ following =
      '"' :: (doubled name.toList ++ '"' :: following) := by
    simp [quoteIdentifier, doubled]
  rw [written, read?_next (by decide) found]
  rfl

/-- A placeholder is read as its number. -/
theorem spells_placeholder (number : Nat) :
    Spells (Postgres.placeholder number) [.placeholder number] := by
  intro following breaks
  have digits : ∀ character ∈ Nat.toDigits 10 number, character.isDigit = true := fun _ member =>
    Nat.isDigit_of_mem_toDigits (by decide) (by decide) member
  obtain ⟨taken, dropped⟩ := takeWhile_append_break digits
    (fun _ ends => (apart_of_isBreak ends).2.2.1) breaks
  have found : next? '$' (Nat.toDigits 10 number ++ following) =
      some (.placeholder number, following) := by
    rw [next?, if_neg (by decide), if_pos rfl, taken, dropped, if_neg Nat.toDigits_ne_nil,
      Nat.ofDigitChars_toDigits (by decide) (by decide)]
  have written : Postgres.placeholder number ++ following =
      '$' :: (Nat.toDigits 10 number ++ following) := by
    rw [Postgres.placeholder, Nat.toString_eq_ofList_toDigits, String.toList_ofList,
      List.cons_append]
  rw [written, read?_next (by decide) found]
  rfl

/-- Texts with commas between them are read as their tokens with commas between them. -/
theorem spells_separated {α : Type} {text : α → List Char} {token : α → Token}
    (each : ∀ item, Spells (text item) [token item]) (items : List α) :
    Spells (commaSeparated (items.map text)) ((items.map token).intersperse (.mark ',')) := by
  induction items with
  | nil => exact spells_nil
  | cons item rest ih =>
    cases rest with
    | nil => simpa [commaSeparated] using each item
    | cons second others =>
      have comma : isMark ',' = true := by decide
      have spelled := (each item).append (breaks_cons (by decide) _) (ih.space.mark comma)
      simpa [commaSeparated] using spelled

end Token

end Seeding.Postgres
