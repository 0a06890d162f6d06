/-
**Drawing values.**

`sample` draws the value of the next row. A string draws its length and then each character; lengths
and integers are drawn as words between the bounds of their range, choices, characters and names as
places in their lists. An optional generator first draws whether the row gets NULL and, if not, goes
on to the generator inside.
-/
import Seeding.Generator.Basic
import Seeding.Generator.FirstNames
import Seeding.Value

namespace Seeding

variable {σ : Type} [WordSource σ]

/-- A length of the range. -/
def LengthRange.draw (range : LengthRange) : StateM σ Nat := do
  let length ← Uniform.between Uniform.bits64 range.least.toBitVec range.most.toBitVec
  return length.toNat

/-- An integer of the range, drawn by its bits. -/
def IntegerRange.draw (range : IntegerRange) : StateM σ Int64 := do
  let number ← Uniform.between Uniform.bits64 range.least.toBitVec range.most.toBitVec
  return Int64.ofBitVec number

/-- One of the choices. -/
def Choices.draw (choices : Choices) : StateM σ String := do
  let place ← Uniform.below64 choices.names.length (List.length_pos_iff.mpr choices.nonempty)
  return choices.names[place]

namespace Generator

/-- The characters of random strings: the letters of both cases, the digits and the underscore. -/
def letter (place : Fin 63) : Char :=
  if place.val < 26 then Char.ofNat ('A'.toNat + place.val)
  else if place.val < 52 then Char.ofNat ('a'.toNat + (place.val - 26))
  else if place.val < 62 then Char.ofNat ('0'.toNat + (place.val - 52))
  else '_'

/-- A number of random characters. -/
def letters : (count : Nat) → StateM σ (List Char)
  | 0 => pure []
  | count + 1 => do
    let place ← Uniform.below64 63 (by decide)
    let rest ← letters count
    return letter place :: rest

/-- A first name. -/
def firstNameDraw : StateM σ String := do
  let place ← Uniform.below32 firstNames.size firstNames_nonempty
  return firstNames[place]

/-- The value of the next row. -/
def sample : Generator → StateM σ Value
  | .string lengths => do
    let count ← lengths.draw
    let characters ← letters count
    return .text (String.ofList characters)
  | .enumeration choices => return .enumerant (← choices.draw)
  | .integer range => return .integer (← range.draw)
  | .name limit => return .text (String.ofList ((← firstNameDraw).toList.take limit))
  | .optional share inner => do
    if ← share.hits then return .null else inner.sample

end Generator

end Seeding
