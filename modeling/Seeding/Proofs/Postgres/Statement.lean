/-
**The text of an INSERT statement cannot be misread.**

Names of tables and columns are arbitrary texts: they may hold quotes, commas, parentheses, dollar
signs and key words, and they may be empty. The reader of tokens still finds in the text just the key
words, the names and the placeholders that were written (`read?_insertText`), so no name ends its own
quoting and no name passes for a part of the statement.

Main statement: `insertStatement_unambiguous`, for every table and every record.
-/
import Seeding.Proofs.Postgres.Tokens

namespace Seeding.Postgres

open Token

/-- The tokens of an INSERT statement: the key words and the table, and then either the words that
ask for the defaults or the columns and as many placeholders, numbered from one. -/
def insertTokens (table : String) (columns : List String) : List Token :=
  [.word "INSERT", .word "INTO", .identifier table] ++
    if columns = [] then [.word "DEFAULT", .word "VALUES"]
    else
      .mark '(' :: (columns.map .identifier).intersperse (.mark ',') ++
        [.mark ')', .word "VALUES", .mark '('] ++
        ((List.range' 1 columns.length).map .placeholder).intersperse (.mark ',') ++ [.mark ')']

/-! ### Reading the text -/

/-- The key words and the table, before what follows the table. -/
theorem spells_target (table : String) :
    Spells ("INSERT INTO ".toList ++ quoteIdentifier table)
      [.word "INSERT", .word "INTO", .identifier table] := by
  have insert : Spells "INSERT".toList [.word "INSERT"] :=
    spells_word rfl (by decide) (by decide)
  have into : Spells "INTO".toList [.word "INTO"] := spells_word rfl (by decide) (by decide)
  have named := into.append (breaks_cons (by decide) _) (spells_identifier table).space
  have spelled := insert.append (breaks_cons (by decide) _) named.space
  exact spelled

/-- The request for the defaults. -/
theorem spells_defaults :
    Spells " DEFAULT VALUES".toList [.word "DEFAULT", .word "VALUES"] := by
  have default : Spells "DEFAULT".toList [.word "DEFAULT"] :=
    spells_word rfl (by decide) (by decide)
  have values : Spells "VALUES".toList [.word "VALUES"] :=
    spells_word rfl (by decide) (by decide)
  have spelled := default.append (breaks_cons (by decide) _) values.space
  exact spelled.space

/-- The columns and their placeholders. -/
theorem spells_columns (columns : List String) :
    Spells (" (".toList ++ commaSeparated (columns.map quoteIdentifier) ++ ") VALUES (".toList ++
        commaSeparated ((List.range columns.length).map fun place => placeholder (place + 1)) ++
        ")".toList)
      (.mark '(' :: (columns.map .identifier).intersperse (.mark ',') ++
        [.mark ')', .word "VALUES", .mark '('] ++
        ((List.range' 1 columns.length).map .placeholder).intersperse (.mark ',') ++
        [.mark ')']) := by
  have opening : isMark '(' = true := by decide
  have closing : isMark ')' = true := by decide
  have close : Spells ")".toList [.mark ')'] := spells_nil.mark closing
  have numbers := (spells_separated (fun place => spells_placeholder (place + 1))
    (List.range columns.length)).append (breaks_cons (by decide) _) close
  have values : Spells "VALUES".toList [.word "VALUES"] :=
    spells_word rfl (by decide) (by decide)
  have tail := values.append (breaks_cons (by decide) _) (numbers.mark opening).space
  have names := (spells_separated spells_identifier columns).append (breaks_cons (by decide) _)
    (tail.space.mark closing)
  have numbered : (List.range columns.length).map (fun place => Token.placeholder (place + 1)) =
      (List.range' 1 columns.length).map .placeholder := by
    rw [List.range'_eq_map_range, List.map_map]
    simp only [Function.comp_def, Nat.add_comm 1]
  rw [numbered] at names
  have spelled := (names.mark opening).space
  simp only [List.append_assoc]
  exact spelled

/-- **An INSERT statement is read as its key words, its names and its placeholders.** -/
theorem read?_insertText (table : String) (columns : List String) :
    read? (insertText table columns) = some (insertTokens table columns) := by
  have spelled : Spells (insertText table columns) (insertTokens table columns) := by
    unfold insertText insertTokens
    by_cases none : columns = []
    · rw [if_pos none, if_pos none]
      exact (spells_target table).append (breaks_cons (by decide) _) spells_defaults
    · rw [if_neg none, if_neg none]
      exact (spells_target table).append (breaks_cons (by decide) _) (spells_columns columns)
  have read := spelled [] (by rintro _ ⟨⟩)
  rw [List.append_nil] at read
  rw [read, read?]
  simp

/-! ### What the tokens say -/

/-- A view that does not show the separator shows a separated list as the list itself. -/
theorem filterMap_intersperse {α β : Type} {view : α → Option β} {separator : α}
    (hidden : view separator = none) (items : List α) :
    (items.intersperse separator).filterMap view = items.filterMap view := by
  induction items with
  | nil => rfl
  | cons item rest ih =>
    cases rest with
    | nil => rfl
    | cons second others =>
      rw [List.intersperse_cons_cons, List.filterMap_cons, List.filterMap_cons_none hidden, ih,
        ← List.filterMap_cons]

/-- What a view that does not show the marks sees of an INSERT statement. -/
theorem filterMap_insertTokens {β : Type} {view : Token → Option β}
    (hidden : ∀ sign, view (.mark sign) = none) (table : String) (columns : List String) :
    (insertTokens table columns).filterMap view =
      [.word "INSERT", .word "INTO", .identifier table].filterMap view ++
        if columns = [] then [.word "DEFAULT", .word "VALUES"].filterMap view
        else
          columns.filterMap (fun name => view (.identifier name)) ++ [.word "VALUES"].filterMap view ++
            (List.range' 1 columns.length).filterMap fun number => view (.placeholder number) := by
  unfold insertTokens
  rw [List.filterMap_append]
  by_cases none : columns = []
  · rw [if_pos none, if_pos none]
  · rw [if_neg none, if_neg none]
    simp only [List.filterMap_append, filterMap_intersperse (hidden ','), List.filterMap_map,
      List.filterMap_cons, List.filterMap_nil, hidden, List.append_nil, List.append_assoc,
      Function.comp_def]

/-- The name of an identifier. -/
def name? : Token → Option String
  | .identifier name => some name
  | _ => none

/-- The letters of a word. -/
def word? : Token → Option String
  | .word letters => some letters
  | _ => none

theorem word?_eq_some_iff {token : Token} {letters : String} :
    word? token = some letters ↔ token = .word letters := by
  cases token <;> simp [word?]

/-- The identifiers of an INSERT statement are the table and the columns. -/
theorem names_insertTokens (table : String) (columns : List String) :
    (insertTokens table columns).filterMap name? = table :: columns := by
  rw [filterMap_insertTokens fun _ => rfl]
  by_cases none : columns = []
  · rw [if_pos none, none]
    rfl
  · have numbers : (List.range' 1 columns.length).filterMap
        (fun number => name? (.placeholder number)) = [] :=
      List.filterMap_eq_nil_iff.mpr fun _ _ => rfl
    have columns : columns.filterMap (fun name => name? (.identifier name)) = columns :=
      List.filterMap_some
    rw [if_neg none, numbers, columns]
    simp [List.filterMap_cons, name?]

/-- The words of an INSERT statement ask for the defaults exactly if there are no columns. -/
theorem words_insertTokens (table : String) (columns : List String) :
    (insertTokens table columns).filterMap word? =
      if columns = [] then ["INSERT", "INTO", "DEFAULT", "VALUES"]
      else ["INSERT", "INTO", "VALUES"] := by
  rw [filterMap_insertTokens fun _ => rfl]
  by_cases none : columns = []
  · rw [if_pos none, if_pos none]
    rfl
  · have numbers : (List.range' 1 columns.length).filterMap
        (fun number => word? (.placeholder number)) = [] :=
      List.filterMap_eq_nil_iff.mpr fun _ _ => rfl
    have columns : columns.filterMap (fun name => word? (.identifier name)) = [] :=
      List.filterMap_eq_nil_iff.mpr fun _ _ => rfl
    rw [if_neg none, if_neg none, numbers, columns]
    simp [List.filterMap_cons, word?]

theorem default_mem_insertTokens (table : String) (columns : List String) :
    .word "DEFAULT" ∈ insertTokens table columns ↔ columns = [] := by
  have shown : .word "DEFAULT" ∈ insertTokens table columns ↔
      "DEFAULT" ∈ (insertTokens table columns).filterMap word? := by
    simp [List.mem_filterMap, word?_eq_some_iff]
  rw [shown, words_insertTokens]
  by_cases none : columns = []
  · simp [none]
  · simp [none]

/-- The text determines the table and the columns. -/
theorem insertText_inj {table table' : String} {columns columns' : List String}
    (same : insertText table columns = insertText table' columns') :
    table = table' ∧ columns = columns' := by
  have tokens : insertTokens table columns = insertTokens table' columns' := by
    have read := congrArg read? same
    rw [read?_insertText, read?_insertText] at read
    exact Option.some.inj read
  have names := congrArg (List.filterMap name?) tokens
  rw [names_insertTokens, names_insertTokens] at names
  exact List.cons.inj names

/-- A quoted identifier stands for its name and nothing else. -/
theorem unquoted?_quoteIdentifier (name : String) : unquoted? (quoteIdentifier name) = some name := by
  have read : delimited? (doubled name.toList ++ ['"']) = some (name.toList, []) :=
    delimited?_doubled name.toList (by simp)
  show unquoted? ('"' :: (doubled name.toList ++ ['"'])) = some name
  rw [unquoted?, read]
  exact congrArg some String.ofList_toList

/-! ### Statements of records -/

/-- **The text of an INSERT statement cannot be misread.** Whatever characters the names of the table
and of the columns hold, the text of the statement for a record is read, to its end, as the words
INSERT INTO, the table, and then DEFAULT VALUES if the record is empty and else its columns in order
and a placeholder for each, numbered from one. Two texts are equal only for the same table and the
same columns, and every name is read back from its quoted form. -/
theorem insertStatement_unambiguous :
    (∀ (table : Table) (record : Record),
      read? (insertStatement table record).text.toList =
        some (insertTokens table.name record.columns) ∧
      (.word "DEFAULT" ∈ insertTokens table.name record.columns ↔ record.size = 0)) ∧
    (∀ (table table' : String) (columns columns' : List String),
      insertText table columns = insertText table' columns' ↔
        table = table' ∧ columns = columns') ∧
    ∀ name : String, unquoted? (quoteIdentifier name) = some name := by
  refine ⟨fun table record => ⟨?_, ?_⟩, fun table table' columns columns' => ⟨insertText_inj, ?_⟩,
    unquoted?_quoteIdentifier⟩
  · rw [insertStatement, String.toList_ofList]
    exact read?_insertText table.name record.columns
  · rw [default_mem_insertTokens, Record.columns, Record.size, List.map_eq_nil_iff,
      List.length_eq_zero_iff]
  · rintro ⟨rfl, rfl⟩
    rfl

end Seeding.Postgres
