/-
**What can be wrong with a JSON text.**

A text is read from left to right and the first fault found is the answer. A reader takes the
characters still to be read and gives its result with those that remain.
-/

namespace Seeding.Json

/-- Why reading stopped. -/
inductive Fault where
  /-- The text ends where more is needed. -/
  | ended
  /-- The text is not JSON. -/
  | malformed
  /-- The text is JSON so far, but does not have the kind, range or fields that are asked for. -/
  | unsuitable
  deriving DecidableEq, Repr

/-- Reads a result off the front of the remaining characters. -/
abbrev Reader (α : Type) := StateT (List Char) (Except Fault) α

namespace Reader

/-- The characters that separate tokens. -/
def isSpace (character : Char) : Bool :=
  character = ' ' || character = '\t' || character = '\n' || character = '\r'

/-- Passes over spaces and shows the next character without taking it. -/
def peek : Reader (Option Char) := fun characters =>
  let rest := characters.dropWhile isSpace
  .ok (rest.head?, rest)

/-- Takes one character. -/
def advance : Reader Unit := fun characters => .ok ((), characters.drop 1)

/-- Passes over spaces and takes the given character. -/
def expect (character : Char) : Reader Unit := do
  match ← peek with
  | none => throw .ended
  | some found => if found = character then advance else throw .malformed

/-- Takes the given letters, one after the other. -/
def letters : List Char → Reader Unit
  | [] => pure ()
  | letter :: word => fun characters =>
    match characters with
    | [] => .error .ended
    | found :: rest => if found = letter then letters word rest else .error .malformed

/-- Passes over spaces and takes the end of the text. -/
def finish : Reader Unit := do
  match ← peek with
  | none => pure ()
  | some _ => throw .malformed

end Reader

end Seeding.Json
