/-
**UTF-8.**

A character is written as one to four bytes; how many follow the first one, and where the second one
lies, depends on the first. `pieces` divides any bytes into characters and runs that belong to none:
such a run ends before the first byte that cannot follow, or with the bytes. A strict reader names
the first such run by its length and its place, a lenient one puts the replacement character there.
-/

namespace Seeding.Text

/-- Where each byte after a first one lies, if a character starts with that one. -/
def followers? (first : Nat) : Option (List (Nat × Nat)) :=
  let free := (0x80, 0xBF)
  if first < 0x80 then some []
  else if first < 0xC2 then none
  else if first < 0xE0 then some [free]
  else if first = 0xE0 then some [(0xA0, 0xBF), free]
  else if first = 0xED then some [(0x80, 0x9F), free]
  else if first < 0xF0 then some [free, free]
  else if first = 0xF0 then some [(0x90, 0xBF), free, free]
  else if first < 0xF4 then some [free, free, free]
  else if first = 0xF4 then some [(0x80, 0x8F), free, free]
  else none

/-- How many of the bytes in front lie where they are expected. -/
def following : List (Nat × Nat) → List UInt8 → Nat
  | range :: ranges, byte :: bytes =>
    if range.1 ≤ byte.toNat ∧ byte.toNat ≤ range.2 then following ranges bytes + 1 else 0
  | [], _ => 0
  | _ :: _, [] => 0

/-- The character of a first byte and those that follow it: six bits come from each of these and
the others from the first one. -/
def assembled (first : UInt8) (others : List UInt8) : Char :=
  let high := if others = [] then first.toNat else first.toNat % Nat.pow 2 (6 - others.length)
  Char.ofNat (others.foldl (fun number byte => number * 64 + byte.toNat % 64) high)

/-- A piece of a list of bytes. -/
inductive Piece where
  | character (value : Char)
  /-- So many bytes belong to no character. -/
  | broken (width : Nat)
  /-- The bytes end within a character. -/
  | unfinished
  deriving DecidableEq, Repr

/-- The pieces of a list of bytes. -/
def pieces (bytes : List UInt8) : List Piece :=
  match bytes with
  | [] => []
  | first :: rest =>
    match followers? first.toNat with
    | none => .broken 1 :: pieces rest
    | some ranges =>
      let width := following ranges rest
      if width = ranges.length then
        .character (assembled first (rest.take width)) :: pieces (rest.drop width)
      else if width = rest.length then [.unfinished]
      else .broken (width + 1) :: pieces (rest.drop width)
termination_by bytes.length
decreasing_by all_goals simp only [List.length_drop, List.length_cons]; omega

/-- The first place at which bytes are no UTF-8. -/
inductive Utf8Fault where
  | broken (width index : Nat)
  | unfinished (index : Nat)
  deriving DecidableEq, Repr

/-- The text of such a fault. -/
def Utf8Fault.message : Utf8Fault → String
  | .broken width index => s!"invalid utf-8 sequence of {width} bytes from index {index}"
  | .unfinished index => s!"incomplete utf-8 byte sequence from index {index}"

/-- The characters of pieces of which the first stands at `index`. -/
def characters (index : Nat) : List Piece → Except Utf8Fault (List Char)
  | [] => .ok []
  | .character value :: rest => (characters (index + value.utf8Size) rest).map (value :: ·)
  | .broken width :: _ => .error (.broken width index)
  | .unfinished :: _ => .error (.unfinished index)

/-- Reads bytes as characters. -/
def ofUtf8 (bytes : List UInt8) : Except Utf8Fault (List Char) := characters 0 (pieces bytes)

/-- The character that a lenient reader sees in a piece. -/
def Piece.lenient : Piece → Char
  | .character value => value
  | .broken _ => '\uFFFD'
  | .unfinished => '\uFFFD'

/-- Reads bytes as characters and puts the replacement character where they are none. -/
def ofUtf8Leniently (bytes : List UInt8) : List Char := (pieces bytes).map Piece.lenient

end Seeding.Text
