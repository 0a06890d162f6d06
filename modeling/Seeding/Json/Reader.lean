/-
**Reading JSON texts for a known purpose.**

The caller says what it wants next: a string, a number, a truth value, the fields of an object or
the elements of a list. A value of another kind is still read far enough to tell whether it is JSON
at all before it is refused as unsuitable; a list or an object is refused at its bracket. `pass`
reads a value of any kind that nobody asked for, to any depth.
-/
import Seeding.Json.Lexeme

namespace Seeding.Json.Reader

/-- Refuses the next value, which starts with the given character, as being of the wrong kind. -/
def refuse {α : Type} (character : Char) : Reader α := do
  if character = 'n' then advance; letters "ull".toList
  else if character = 't' then advance; letters "rue".toList
  else if character = 'f' then advance; letters "alse".toList
  else if character = '-' ∨ character.isDigit then let _ ← number
  else if character = '"' then advance; let _ ← text
  else if character = '[' ∨ character = '\x7b' then pure ()
  else throw .malformed
  throw .unsuitable

/-- Reads a string. -/
def string : Reader String := do
  match ← peek with
  | none => throw .ended
  | some '"' => advance; text
  | some character => refuse character

/-- Reads a whole number below a bound. -/
def naturalBelow (bound : Nat) : Reader Nat := do
  match ← peek with
  | none => throw .ended
  | some character =>
    if character = '-' ∨ character.isDigit then
      match ← number with
      | some value => if value < bound then pure value else throw .unsuitable
      | none => throw .unsuitable
    else refuse character

/-- Reads a truth value. -/
def boolean : Reader Bool := do
  match ← peek with
  | none => throw .ended
  | some 't' => advance; letters "rue".toList; pure true
  | some 'f' => advance; letters "alse".toList; pure false
  | some character => refuse character

/-- Reads a null. -/
def null : Reader Unit := do
  match ← peek with
  | none => throw .ended
  | some 'n' => advance; letters "ull".toList
  | some character => refuse character

/-- Reads a value that may be null. -/
def nullable {α : Type} (value : Reader α) : Reader (Option α) := do
  match ← peek with
  | some 'n' => advance; letters "ull".toList; pure none
  | _ => some <$> value

/-- Leaves the brackets that close here, innermost first, until a comma asks for another value or
none is left; gives those still open. -/
def leave : (closers : List Char) → Reader (List Char)
  | [] => pure []
  | closer :: outer => do
    match ← peek with
    | none => throw .ended
    | some character =>
      if character = ',' then advance; pure (closer :: outer)
      else if character = closer then advance; leave outer
      else throw .malformed

/-- Enters a list or an object after its opening bracket; gives the brackets still open, which is
less by one where it is empty. -/
def enter (closer : Char) (outer : List Char) : Reader (List Char) := do
  match ← peek with
  | none => throw .ended
  | some character =>
    if character = closer then advance; leave outer else pure (closer :: outer)

/-- Passes over the start of a value: all of it, or the opening bracket of a list or an object.
Gives the brackets that another value is needed for. -/
def passStart (closers : List Char) : Reader (List Char) := do
  match ← peek with
  | none => throw .ended
  | some '[' => advance; enter ']' closers
  | some '\x7b' => advance; enter '\x7d' closers
  | some 'n' => advance; letters "ull".toList; leave closers
  | some 't' => advance; letters "rue".toList; leave closers
  | some 'f' => advance; letters "alse".toList; leave closers
  | some '"' => advance; passText; leave closers
  | some character =>
    if character = '-' ∨ character.isDigit then passNumber; leave closers else throw .malformed

/-- Passes over values until all brackets are closed. The fuel bounds the number of values. -/
def passWithin : (fuel : Nat) → (closers : List Char) → Reader Unit
  | 0, _ => throw .malformed
  | fuel + 1, closers => do
    let needed ← passStart closers
    if needed.head? = some '\x7d' then
      expect '"'
      passText
      expect ':'
    if needed = [] then pure () else passWithin fuel needed

/-- Passes over a value of any kind. -/
def pass : Reader Unit := fun characters => passWithin (characters.length + 1) [] characters

/-- Takes the separator in front of the next element of a list: none at its end. The first element
has no comma in front. -/
def nextElement (first : Bool) : Reader Bool := do
  match ← peek with
  | none => throw .ended
  | some ']' => pure false
  | some ',' =>
    if first then pure true
    else
      advance
      match ← peek with
      | none => throw .ended
      | some ']' => throw .malformed
      | some _ => pure true
  | some _ => if first then pure true else throw .malformed

/-- Reads the next element of a list, which has to be there. -/
def element {α : Type} (first : Bool) (value : Reader α) : Reader α := do
  if ← nextElement first then value else throw .unsuitable

/-- Takes the separator and the name of the next field of an object: none at its end. -/
def nextField (first : Bool) : Reader (Option String) := do
  match ← peek with
  | none => throw .ended
  | some '\x7d' => pure none
  | some ',' =>
    if first then throw .malformed
    else
      advance
      expect '"'
      some <$> text
  | some '"' =>
    if first then
      advance
      some <$> text
    else throw .malformed
  | some _ => throw .malformed

end Seeding.Json.Reader
