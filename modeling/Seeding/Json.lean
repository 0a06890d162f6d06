/-
**JSON values and their compact text.**

`Json` has the values that records, settings and output lines are made of; `render` writes
one without spaces. In a string only the double quote, the backslash and the characters below the
space are escaped, so a rendered value never spans two lines. `sorted` puts the fields of an object
in the order of their names.
-/

namespace Seeding

/-- A JSON value; the fields of an object keep their order. -/
inductive Json where
  | null
  | boolean (value : Bool)
  | integer (value : Int)
  | string (value : String)
  | object (fields : List (String × Json))

namespace Json

/-- How one character is written inside a string. -/
def escape (character : Char) : List Char :=
  if character = '"' then ['\\', '"']
  else if character = '\\' then ['\\', '\\']
  else if character = '\x08' then ['\\', 'b']
  else if character = '\x0c' then ['\\', 'f']
  else if character = '\n' then ['\\', 'n']
  else if character = '\r' then ['\\', 'r']
  else if character = '\t' then ['\\', 't']
  else if character.toNat < 0x20 then
    ['\\', 'u', '0', '0',
      Nat.digitChar (character.toNat / 16), Nat.digitChar (character.toNat % 16)]
  else [character]

/-- A string with its quotes. -/
def renderString (text : String) : List Char :=
  '"' :: text.toList.flatMap escape ++ ['"']

mutual

/-- The compact text of a value, as characters. -/
def renderValue : Json → List Char
  | .null => "null".toList
  | .boolean true => "true".toList
  | .boolean false => "false".toList
  | .integer value => (toString value).toList
  | .string value => renderString value
  | .object fields => '{' :: renderFields fields ++ ['}']

/-- The fields of an object, separated by commas. -/
def renderFields : List (String × Json) → List Char
  | [] => []
  | [field] => renderField field
  | field :: second :: rest => renderField field ++ ',' :: renderFields (second :: rest)

/-- A field: its name, a colon and its value. -/
def renderField : String × Json → List Char
  | (name, value) => renderString name ++ ':' :: renderValue value

end

/-- The compact text of a value. -/
def render (value : Json) : String := String.ofList (renderValue value)

/-- Whether a field may stand before another in ascending order of names. -/
def precedes (first second : String × Json) : Bool := !decide (second.1 < first.1)

/-- The value with its fields, if it is an object, in ascending order. -/
def sorted : Json → Json
  | .object fields => .object (fields.mergeSort precedes)
  | value => value

end Json

end Seeding
