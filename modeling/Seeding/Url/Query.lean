/-
**Queries of URLs.**

A query is a list of parameters between ampersands, each a key and, after its first equals sign, a
value. A plus sign stands for a space; percent signs are resolved after that, and bytes that are no
UTF-8 give the replacement character.
-/
import Seeding.Text.Parts
import Seeding.Text.Utf8
import Seeding.Url.Percent

namespace Seeding.Url

/-- The text that a key or value of a query stands for. -/
def queryText (written : List Char) : String :=
  let spaced := written.map fun character => if character = '+' then ' ' else character
  String.ofList (Text.ofUtf8Leniently (percentDecoded spaced))

/-- A parameter of a query; without an equals sign its value is empty. -/
def parameter (written : List Char) : String × String :=
  let (key, value?) := Text.cut (· = '=') written
  (queryText key, queryText (value?.getD []))

/-- The parameters of a query, in order; nothing stands between two ampersands in a row. -/
def parameters (query : List Char) : List (String × String) :=
  ((Text.parts (· = '&') query).filter (· ≠ [])).map parameter

end Seeding.Url
