/-
**Values of columns.**

A value is a text, a value of an enumeration, a 64-bit integer or NULL. Texts and values of
enumerations are different values even where their characters agree, but are written alike.
-/
import Seeding.Json
import Seeding.Text.Quoted

namespace Seeding

/-- A value of a column. -/
inductive Value where
  | text (content : String)
  | enumerant (name : String)
  | integer (number : Int64)
  | null
  deriving DecidableEq, Repr, Inhabited

namespace Value

/-- The word for the kind of a value. -/
def kindName : Value → String
  | .text _ => "text"
  | .enumerant _ => "enum"
  | .integer _ => "int"
  | .null => "null"

/-- The characters of a value that has any. -/
def characters? : Value → Option String
  | .text content => some content
  | .enumerant name => some name
  | .integer _ => none
  | .null => none

/-- A value with its kind, for messages. -/
def describe : Value → String
  | .text content => s!"Text({Text.quoted content})"
  | .enumerant name => s!"Enum({Text.quoted name})"
  | .integer number => s!"Int({number.toInt})"
  | .null => "Null"

/-- A value in JSON: a string, a number or null. -/
def toJson : Value → Json
  | .text content => .string content
  | .enumerant name => .string name
  | .integer number => .integer number.toInt
  | .null => .null

end Value

end Seeding
