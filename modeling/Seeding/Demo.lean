/-
**The demonstration table.**

The table `pets` and the declaration that the command line seeds it with: 25 rows, each with a
random name and one of two types. Its identifier is left to the database.
-/
import Seeding.Session

namespace Seeding.Demo

/-- The types of pets. -/
def types : List String := ["DOG", "CAT"]

/-- The table of pets. -/
def pets : Table := Table.ofColumns "pets" [
  Column.declare "id" .bigserial,
  Column.declare "name" (.varchar 255),
  Column.declare "type" (.enumeration 25 types)]

/-- The statement that makes the table where it is missing. -/
def creation : String :=
  "\n".intercalate [
    "",
    "        CREATE TABLE IF NOT EXISTS pets (",
    "            id BIGSERIAL PRIMARY KEY,",
    "            name VARCHAR(255) NOT NULL,",
    "            \"type\" VARCHAR(25) NOT NULL",
    "        )",
    "        "]

/-- Declares the table of pets. -/
def declare (session : Session) : Except DeclarationError Session :=
  session.declare pets fun plan => do
    let plan ← plan.setRows 25
    let name ← Binding.ofColumn (← pets.column "name") (← Generator.ofLengths 16 64)
    let type ← Binding.ofColumn (← pets.column "type") (← Generator.ofChoices types)
    plan.bind [name, type]

end Seeding.Demo
