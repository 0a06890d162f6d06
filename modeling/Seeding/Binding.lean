/-
**Bindings.**

A binding pairs a column with the generator that fills it. It exists only if the generator passed
its check for that column (`Binding.fits`).
-/
import Seeding.Generator.Check
import Seeding.Generator.Draw
import Seeding.Record
import Seeding.Text.Quoted

namespace Seeding

/-- A column and a generator that can fill it. -/
structure Binding where
  column : Column
  generator : Generator
  fits : generator.check column = .ok ()

namespace Binding

/-- Binds a generator to a column if it can fill it. -/
def ofColumn (column : Column) (generator : Generator) : Except DeclarationError Binding :=
  match fits : generator.check column with
  | .ok () => .ok { column, generator, fits }
  | .error error => .error error

/-- A binding in one line, for messages. -/
def describe (binding : Binding) : String :=
  "ColumnBinding \x7b table: " ++ Text.quoted binding.column.table ++
    ", column: " ++ Text.quoted binding.column.name ++
    ", generator: " ++ Text.quoted binding.generator.kind.label ++ " \x7d"

/-- Draws a value for each binding in turn and sets it in the record. -/
def fill {σ : Type} [WordSource σ] : List Binding → Record → StateM σ Record
  | [], record => pure record
  | binding :: rest, record => do
    let value ← binding.generator.sample
    fill rest (record.set binding.column.name value)

end Binding

end Seeding
