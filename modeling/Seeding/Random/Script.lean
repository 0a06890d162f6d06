/-
**A scripted source.**

A script gives prepared words in order and zeros after the last. A draw of 32 bits takes a whole
word and keeps its low half. Every draw accepts a zero, so a draw rejects at most the prepared
words.
-/
import Seeding.Random.Source

namespace Seeding

/-- The words still to come, and how many were taken. -/
structure Script where
  words : List UInt64
  taken : Nat := 0
  deriving DecidableEq, Repr

namespace Script

/-- The next prepared word, or zero. -/
def next (script : Script) : UInt64 × Script :=
  (script.words.headD 0, { words := script.words.tail, taken := script.taken + 1 })

instance : WordSource Script where
  next32 script := (script.next.1.toUInt32, script.next.2)
  next64 := next
  patience script := script.words.length

end Script

end Seeding
