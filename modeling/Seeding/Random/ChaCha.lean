/-
**The seeded source.**

A 64-bit seed is expanded to a key, and the key gives an endless sequence of 32-bit words in blocks
of sixteen: ChaCha with twelve rounds, a 64-bit block counter from zero and a zero stream number.
`KeyStream` is a place in that sequence together with the block it lies in, so the word at a place
depends on the key alone (`KeyStream.current`).
-/
import Seeding.Random.Source

namespace Seeding.ChaCha

/-- Sixteen words: a working state or a block of output. -/
abbrev Block := Vector UInt32 16

/-- Eight words of key. -/
abbrev Key := Vector UInt32 8

/-! ### Blocks -/

/-- A word turned left by a number of bits below 32. -/
def turnLeft (word : UInt32) (bits : UInt32) : UInt32 :=
  (word <<< bits) ||| (word >>> (32 - bits))

/-- A quarter round on four different places of the state. -/
def quarterRound (a b c d : Fin 16) (state : Block) : Block :=
  let state := state.set a (state[a] + state[b])
  let state := state.set d (turnLeft (state[d] ^^^ state[a]) 16)
  let state := state.set c (state[c] + state[d])
  let state := state.set b (turnLeft (state[b] ^^^ state[c]) 12)
  let state := state.set a (state[a] + state[b])
  let state := state.set d (turnLeft (state[d] ^^^ state[a]) 8)
  let state := state.set c (state[c] + state[d])
  state.set b (turnLeft (state[b] ^^^ state[c]) 7)

/-- A round on the four columns, then a round on the four diagonals. -/
def doubleRound (state : Block) : Block :=
  let columns := quarterRound 3 7 11 15 (quarterRound 2 6 10 14
    (quarterRound 1 5 9 13 (quarterRound 0 4 8 12 state)))
  quarterRound 3 4 9 14 (quarterRound 2 7 8 13
    (quarterRound 1 6 11 12 (quarterRound 0 5 10 15 columns)))

/-- The state that a block starts from: four constants, the key, the counter and the stream. -/
def start (key : Key) (counter : UInt64) : Block :=
  #v[0x61707865, 0x3320646e, 0x79622d32, 0x6b206574,
    key[0], key[1], key[2], key[3], key[4], key[5], key[6], key[7],
    counter.toUInt32, (counter >>> 32).toUInt32, 0, 0]

/-- The block of output with the given number: six double rounds added to the start. -/
def block (key : Key) (counter : Nat) : Block :=
  let initial := start key (UInt64.ofNat counter)
  let mixed := Nat.repeat doubleRound 6 initial
  Vector.ofFn fun place => mixed[place] + initial[place]

/-! ### Seeds -/

/-- One step of the generator that expands a seed. -/
def stepSeed (state : UInt64) : UInt64 :=
  state * 6364136223846793005 + 11634580027462260723

/-- The word that a step gives. -/
def seedWord (state : UInt64) : UInt32 :=
  let mixed := (((state >>> 18) ^^^ state) >>> 27).toUInt32
  let turn := (state >>> 59).toUInt32
  (mixed >>> turn) ||| (mixed <<< ((32 - turn) % 32))

/-- The state of the expanding generator after a number of steps. -/
def seedState (seed : UInt64) (steps : Nat) : UInt64 := Nat.repeat stepSeed steps seed

/-- The key of a seed. -/
def keyOfSeed (seed : UInt64) : Key :=
  Vector.ofFn fun place => seedWord (seedState seed (place + 1))

end Seeding.ChaCha

namespace Seeding

/-- A place in the sequence of words that belongs to a key. -/
structure KeyStream where
  key : ChaCha.Key
  position : Nat
  buffer : ChaCha.Block
  current : buffer = ChaCha.block key (position / 16)

namespace KeyStream

open ChaCha

/-- A place in the sequence of a key. -/
def ofPlace (key : Key) (position : Nat) : KeyStream where
  key
  position
  buffer := block key (position / 16)
  current := rfl

/-- The start of the sequence that belongs to a seed. -/
def ofSeed (seed : UInt64) : KeyStream := KeyStream.ofPlace (keyOfSeed seed) 0

/-- The place after this one; a block is computed when it is entered. -/
def advance (stream : KeyStream) : KeyStream :=
  if same : (stream.position + 1) / 16 = stream.position / 16 then
    { key := stream.key, position := stream.position + 1, buffer := stream.buffer
      current := by rw [same]; exact stream.current }
  else KeyStream.ofPlace stream.key (stream.position + 1)

/-- The word at this place. -/
def word (stream : KeyStream) : UInt32 :=
  stream.buffer.get ⟨stream.position % 16, Nat.mod_lt _ (by decide)⟩

/-- The next word of 32 bits. -/
def next32 (stream : KeyStream) : UInt32 × KeyStream := (stream.word, stream.advance)

/-- The next word of 64 bits: two words, the low half first. -/
def next64 (stream : KeyStream) : UInt64 × KeyStream :=
  let second := stream.advance
  (second.word.toUInt64 <<< 32 ||| stream.word.toUInt64, second.advance)

/-- A draw gives up rejecting words after more of them than can be expected in any run. -/
instance : WordSource KeyStream where
  next32 := next32
  next64 := next64
  patience _ := 65536

end KeyStream

end Seeding
