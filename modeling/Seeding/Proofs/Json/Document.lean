/-
**JSON texts and the values they are read as.**

`Json.read?` reads a value of any kind that `Json` has: spaces may stand between its tokens, strings
may have any escapes, and after the value the text has to end. It is put together from the readers
for settings; a list, a fraction and an exponent are refused, since no value has them.

* `read_render` — what a value is rendered as is read as that value again. So the text tells the
  value (`render_inj`): a number or a null is never taken for the string of the same characters.
* `printable_render` — no character of a rendered value lies below the space.
-/
import Seeding.Proofs.Json.Lexeme

namespace Seeding.Json

/-! ### Reading a value -/

namespace Reader

mutual

/-- Reads a value of any kind. The fuel bounds how deep values are nested and how many fields an
object has. -/
def value : (fuel : Nat) → Reader Json
  | 0 => throw .malformed
  | fuel + 1 => do
    match ← peek with
    | none => throw .ended
    | some 'n' => null; pure .null
    | some 't' => .boolean <$> boolean
    | some 'f' => .boolean <$> boolean
    | some '"' => advance; .string <$> text
    | some '\x7b' => advance; .object <$> fields fuel true
    | some character =>
      if character = '-' ∨ character.isDigit then .integer <$> whole else refuse character

/-- Reads the fields of an object and its closing bracket. -/
def fields : (fuel : Nat) → (first : Bool) → Reader (List (String × Json))
  | 0, _ => throw .malformed
  | fuel + 1, first => do
    match ← nextField first with
    | none => expect '\x7d'; pure []
    | some name =>
      expect ':'
      let found ← value fuel
      let others ← fields fuel false
      pure ((name, found) :: others)

end

/-- Reads a value and the end of the text. -/
def document : Reader Json := do
  let found ← value ((← get).length + 1)
  finish
  pure found

end Reader

/-- The value that a text is read as, with nothing but spaces around it. -/
def read? (text : String) : Option Json := (Reader.document.run' text.toList).toOption

namespace Reader

/-! ### Values -/

section Values

variable {rest : List Char}

theorem ends_cons {character : Char} (other : character.isDigit = false)
    (apart : character ∉ ['.', 'e', 'E']) : Ends (character :: rest) := by
  rintro _ ⟨⟩
  exact ⟨other, apart⟩

/-- The first character of a number. -/
def IsSigned (character : Char) : Prop := character = '-' ∨ character.isDigit = true

instance (character : Char) : Decidable (IsSigned character) :=
  inferInstanceAs (Decidable (_ ∨ _))

theorem exists_signed (number : Int) :
    ∃ character others, (toString number).toList = character :: others ∧ IsSigned character := by
  cases number with
  | ofNat natural =>
    have shape := isWhole_toDigits natural
    obtain ⟨first, others, same⟩ := List.exists_cons_of_ne_nil shape.given
    refine ⟨first, others, (toList_ofNat natural).trans same, Or.inr (shape.decimal first ?_)⟩
    rw [same]
    exact List.mem_cons_self
  | negSucc natural => exact ⟨'-', _, toList_negSucc natural, Or.inl rfl⟩

theorem isSpace_of_signed {character : Char} (signed : IsSigned character) :
    isSpace character = false := by
  rw [← Bool.not_eq_true]
  intro space
  simp only [isSpace, Bool.or_eq_true, decide_eq_true_eq] at space
  rcases space with ((rfl | rfl) | rfl) | rfl <;> exact absurd signed (by decide)

theorem value_of_signed {character : Char} (fuel : Nat) (signed : IsSigned character) :
    value (fuel + 1) (character :: rest) = (Json.integer <$> whole) (character :: rest) := by
  rw [value, peek_bind _ (isSpace_of_signed signed)]
  refine congrFun ?_ (character :: rest)
  split
  case h_1 same => cases same
  case h_7 same =>
    obtain rfl := Option.some.inj same
    exact if_pos signed
  -- no letter, quote or bracket starts a number
  all_goals
    rename_i same
    obtain rfl := Option.some.inj same
    exact absurd signed (by decide)

theorem nextField_nil (first : Bool) :
    nextField first ('\x7d' :: rest) = .ok (none, '\x7d' :: rest) := by
  unfold nextField
  rw [peek_bind _ (by decide)]
  rfl

/-- What stands before a field: a comma, except before the first one. -/
def separator (first : Bool) : List Char := if first then [] else [',']

theorem nextField_cons (first : Bool) (name : String) :
    nextField first (separator first ++ (renderString name ++ rest)) = .ok (some name, rest) := by
  have read : (some <$> text) (name.toList.flatMap escape ++ '"' :: rest) = .ok (some name, rest) :=
    map_of_ok some (text_flatMap name)
  have solid : isSpace ',' = false ∧ isSpace '"' = false := by decide
  rw [renderString_append]
  unfold nextField
  cases first with
  | false =>
    show (peek >>= _) (',' :: '"' :: _) = _
    rw [peek_bind _ solid.1]
    show (advance >>= fun _ => expect '"' >>= fun _ => some <$> text) (',' :: '"' :: _) = _
    rw [advance_bind, bind_of_ok _ (expect_of_solid solid.2), read]
  | true =>
    show (peek >>= _) ('"' :: _) = _
    rw [peek_bind _ solid.2]
    exact read

/-- The fields of an object from some field on. -/
def renderRest (first : Bool) (fields : List (String × Json)) : List Char :=
  if fields.isEmpty then [] else separator first ++ renderFields fields

theorem renderRest_true (fields : List (String × Json)) :
    renderRest true fields = renderFields fields := by
  cases fields <;> rfl

theorem renderFields_cons (name : String) (value : Json) (fields : List (String × Json)) :
    renderFields ((name, value) :: fields) =
      renderString name ++ ':' :: (renderValue value ++ renderRest false fields) := by
  cases fields with
  | nil =>
    rw [renderFields, renderField]
    simp [renderRest]
  | cons second others =>
    rw [renderFields, renderField]
    simp [renderRest, separator]

theorem renderRest_cons (first : Bool) (name : String) (value : Json)
    (fields : List (String × Json)) :
    renderRest first ((name, value) :: fields) ++ '\x7d' :: rest =
      separator first ++ (renderString name ++
        ':' :: (renderValue value ++ (renderRest false fields ++ '\x7d' :: rest))) := by
  show separator first ++ renderFields ((name, value) :: fields) ++ _ = _
  rw [renderFields_cons]
  simp only [List.append_assoc, List.cons_append]

theorem length_renderFields_cons (name : String) (value : Json) (fields : List (String × Json)) :
    (renderValue value).length + (renderFields fields).length <
      (renderFields ((name, value) :: fields)).length := by
  have within : (renderFields fields).length ≤ (renderRest false fields).length := by
    cases fields with
    | nil => exact Nat.zero_le _
    | cons field others => exact Nat.le_succ _
  rw [renderFields_cons, List.length_append, List.length_cons, List.length_append]
  omega

/-- Neither a comma nor a bracket goes on with a number. -/
theorem ends_renderRest (fields : List (String × Json)) (rest : List Char) :
    Ends (renderRest false fields ++ '\x7d' :: rest) := by
  cases fields with
  | nil => exact ends_cons (by decide) (by decide)
  | cons field others => exact ends_cons (by decide) (by decide)

theorem null_renderValue : null (renderValue .null ++ rest) = .ok ((), rest) := by
  show null ('n' :: ("ull".toList ++ rest)) = _
  unfold null
  rw [peek_bind _ (by decide)]
  exact (advance_bind _).trans (letters_append "ull".toList)

theorem boolean_renderValue (flag : Bool) :
    boolean (renderValue (.boolean flag) ++ rest) = .ok (flag, rest) := by
  unfold boolean
  cases flag with
  | false =>
    show (peek >>= _) ('f' :: ("alse".toList ++ rest)) = _
    rw [peek_bind _ (by decide)]
    exact (advance_bind _).trans (bind_of_ok _ (letters_append "alse".toList))
  | true =>
    show (peek >>= _) ('t' :: ("rue".toList ++ rest)) = _
    rw [peek_bind _ (by decide)]
    exact (advance_bind _).trans (bind_of_ok _ (letters_append "rue".toList))

mutual

/-- A value is read from the way it is written. The induction goes along the value; the fuel that is
left always exceeds what is still to be read of it. -/
theorem value_renderValue : (given : Json) → (fuel : Nat) → (rest : List Char) →
    (renderValue given).length < fuel → Ends rest →
    value fuel (renderValue given ++ rest) = .ok (given, rest)
  | _, 0, _, enough, _ => absurd enough (Nat.not_lt_zero _)
  | .null, fuel + 1, rest, _, _ => by
    show value (fuel + 1) ('n' :: ("ull".toList ++ rest)) = _
    rw [value, peek_bind _ (by decide)]
    exact bind_of_ok _ null_renderValue
  | .boolean flag, fuel + 1, rest, _, _ => by
    have read : (Json.boolean <$> boolean) (renderValue (.boolean flag) ++ rest) =
        .ok (.boolean flag, rest) := map_of_ok Json.boolean (boolean_renderValue flag)
    cases flag with
    | false =>
      show value (fuel + 1) ('f' :: ("alse".toList ++ rest)) = _
      rw [value, peek_bind _ (by decide)]
      exact read
    | true =>
      show value (fuel + 1) ('t' :: ("rue".toList ++ rest)) = _
      rw [value, peek_bind _ (by decide)]
      exact read
  | .integer number, fuel + 1, rest, _, ends => by
    have read := map_of_ok Json.integer (whole_toString number ends)
    obtain ⟨character, others, written, signed⟩ := exists_signed number
    rw [renderValue, written, List.cons_append, value_of_signed fuel signed, ← List.cons_append,
      ← written, read]
  | .string content, fuel + 1, rest, _, _ => by
    rw [renderValue, renderString_append, value, peek_bind _ (by decide)]
    exact (advance_bind _).trans (map_of_ok Json.string (text_flatMap content))
  | .object given, fuel + 1, rest, enough, _ => by
    rw [renderValue, List.length_append, List.length_cons] at enough
    have inner := fields_renderRest given fuel true rest (by omega)
    rw [renderRest_true] at inner
    rw [renderValue, List.append_assoc, List.cons_append, List.singleton_append, value,
      peek_bind _ (by decide)]
    exact (advance_bind _).trans (map_of_ok Json.object inner)

theorem fields_renderRest : (given : List (String × Json)) → (fuel : Nat) → (first : Bool) →
    (rest : List Char) → (renderFields given).length < fuel →
    fields fuel first (renderRest first given ++ '\x7d' :: rest) = .ok (given, rest)
  | _, 0, _, _, enough => absurd enough (Nat.not_lt_zero _)
  | [], fuel + 1, first, rest, _ => by
    show fields (fuel + 1) first ('\x7d' :: rest) = _
    rw [fields, bind_of_ok _ (nextField_nil first)]
    exact bind_of_ok _ (expect_of_solid (by decide))
  | (name, given) :: others, fuel + 1, first, rest, enough => by
    have bound := length_renderFields_cons name given others
    have here := value_renderValue given fuel (renderRest false others ++ '\x7d' :: rest)
      (by omega) (ends_renderRest others rest)
    have there := fields_renderRest others fuel false rest (by omega)
    rw [renderRest_cons, fields, bind_of_ok _ (nextField_cons first name)]
    show (expect ':' >>= fun _ => _) (':' :: _) = _
    rw [bind_of_ok _ (expect_of_solid (by decide)), bind_of_ok _ here, bind_of_ok _ there]
    rfl

end

end Values

end Reader

/-! ### Rendered values -/

/-- **A rendered value is read as itself.** -/
theorem read_render (value : Json) : read? value.render = some value := by
  have ends : Reader.Ends [] := by rintro _ ⟨⟩
  have inside := Reader.value_renderValue value ((renderValue value).length + 1) []
    (Nat.lt_succ_self _) ends
  rw [List.append_nil] at inside
  have read : Reader.document (renderValue value) = .ok (value, []) := by
    show (Reader.value ((renderValue value).length + 1) >>= fun found =>
      Reader.finish >>= fun _ => pure found) (renderValue value) = _
    exact (Reader.bind_of_ok _ inside).trans (Reader.bind_of_ok _ rfl)
  unfold read? render
  rw [String.toList_ofList, StateT.run'_eq, StateT.run, read]
  rfl

example : (read? " \x7b \"\\u0041\" : -7 , \"b\" : null \x7d ").map render =
    some "\x7b\"A\":-7,\"b\":null\x7d" := by decide +kernel

example : (read? "\x7b\"a\":007\x7d").isNone = true := by decide +kernel

/-- The text of a value tells the value. -/
theorem render_inj {first second : Json} : first.render = second.render ↔ first = second := by
  refine ⟨fun same => ?_, congrArg render⟩
  have read := read_render first
  rw [same, read_render second] at read
  exact (Option.some.inj read).symm

/-! ### Lines -/

/-- Characters that may stand in a line: the space and those above it. -/
def Printable (characters : List Char) : Prop := ∀ character ∈ characters, 0x20 ≤ character.toNat

instance (characters : List Char) : Decidable (Printable characters) :=
  List.decidableBAll (fun character : Char => 0x20 ≤ character.toNat) characters

theorem printable_append {first second : List Char} :
    Printable (first ++ second) ↔ Printable first ∧ Printable second :=
  List.forall_mem_append

theorem printable_cons {character : Char} {others : List Char} :
    Printable (character :: others) ↔ 0x20 ≤ character.toNat ∧ Printable others :=
  List.forall_mem_cons

theorem printable_digitChar : ∀ value < 16, 0x20 ≤ (Nat.digitChar value).toNat := by
  decide

theorem printable_escape (character : Char) : Printable (escape character) := by
  unfold escape
  split_ifs with _ _ _ _ _ _ _ control
  any_goals decide
  · have start : Printable ['\\', 'u', '0', '0'] := by decide
    have high := printable_digitChar (character.toNat / 16) (by omega)
    have low := printable_digitChar (character.toNat % 16) (by omega)
    refine printable_append.mpr ⟨start, ?_⟩
    exact printable_cons.mpr ⟨high, printable_cons.mpr ⟨low, by decide⟩⟩
  · exact printable_cons.mpr ⟨Nat.le_of_not_lt control, by decide⟩

theorem printable_renderString (content : String) : Printable (renderString content) := by
  unfold renderString
  refine printable_append.mpr ⟨printable_cons.mpr ⟨by decide, ?_⟩, by decide⟩
  intro letter member
  obtain ⟨character, _, escaped⟩ := List.mem_flatMap.mp member
  exact printable_escape character letter escaped

theorem printable_toDigits (number : Nat) : Printable (Nat.toDigits 10 number) := by
  intro digit member
  have decimal := (Reader.isWhole_toDigits number).decimal digit member
  rw [Char.isDigit, Bool.and_eq_true, decide_eq_true_eq, decide_eq_true_eq] at decimal
  have above : 48 ≤ digit.toNat := decimal.1
  omega

theorem printable_toString (number : Int) : Printable (toString number).toList := by
  cases number with
  | ofNat natural =>
    rw [Reader.toList_ofNat]
    exact printable_toDigits natural
  | negSucc natural =>
    rw [Reader.toList_negSucc]
    exact printable_cons.mpr ⟨by decide, printable_toDigits (natural + 1)⟩

mutual

theorem printable_renderValue : (given : Json) → Printable (renderValue given)
  | .null => by decide
  | .boolean true => by decide
  | .boolean false => by decide
  | .integer number => printable_toString number
  | .string content => printable_renderString content
  | .object fields => by
    rw [renderValue]
    exact printable_append.mpr ⟨printable_cons.mpr ⟨by decide, printable_renderFields fields⟩,
      by decide⟩

theorem printable_renderFields : (fields : List (String × Json)) →
    Printable (renderFields fields)
  | [] => by decide
  | (name, given) :: others => by
    have here := printable_renderValue given
    have there := printable_renderFields others
    have between : Printable (Reader.renderRest false others) := by
      cases others with
      | nil => decide
      | cons field others => exact printable_cons.mpr ⟨by decide, there⟩
    rw [Reader.renderFields_cons]
    refine printable_append.mpr ⟨printable_renderString name, ?_⟩
    exact printable_cons.mpr ⟨by decide, printable_append.mpr ⟨here, between⟩⟩

end

/-- **A rendered value does not span lines.** -/
theorem printable_render (value : Json) : Printable value.render.toList := by
  unfold render
  rw [String.toList_ofList]
  exact printable_renderValue value

end Seeding.Json
