/-!
# Keccak-256

The sponge with a state of 25 words of 64 bits, a rate of 136 bytes, a padding
that starts with a single set bit, and a digest of 32 bytes.
-/
namespace SourceAttest.Keccak

/-- The 25 words of the sponge, word `x + 5 * y` at column `x` and row `y`. -/
abbrev State := Array UInt64

/-- A word of the state; words beyond it count as zero. -/
def State.word (state : State) (i : Nat) : UInt64 := state.getD i 0

def roundConstants : List UInt64 := [
  0x0000000000000001, 0x0000000000008082, 0x800000000000808A, 0x8000000080008000,
  0x000000000000808B, 0x0000000080000001, 0x8000000080008081, 0x8000000000008009,
  0x000000000000008A, 0x0000000000000088, 0x0000000080008009, 0x000000008000000A,
  0x000000008000808B, 0x800000000000008B, 0x8000000000008089, 0x8000000000008003,
  0x8000000000008002, 0x8000000000000080, 0x000000000000800A, 0x800000008000000A,
  0x8000000080008081, 0x8000000000008080, 0x0000000080000001, 0x8000000080008008]

def rotations : Array Nat := #[
  0, 1, 62, 28, 27,
  36, 44, 6, 55, 20,
  3, 10, 43, 25, 39,
  41, 45, 15, 21, 8,
  18, 2, 61, 56, 14]

def rotateLeft (word : UInt64) (amount : Nat) : UInt64 :=
  if amount % 64 = 0 then word
  else (word <<< UInt64.ofNat (amount % 64)) ||| (word >>> UInt64.ofNat (64 - amount % 64))

/-- Mix into every word the parities of two neighbouring columns. -/
def mixColumns (state : State) : State :=
  let parity (x : Nat) : UInt64 :=
    state.word x ^^^ state.word (x + 5) ^^^ state.word (x + 10) ^^^ state.word (x + 15) ^^^
      state.word (x + 20)
  let parities := Array.ofFn fun x : Fin 5 => parity x
  Array.ofFn fun i : Fin 25 =>
    state.word i ^^^ parities.getD ((i % 5 + 4) % 5) 0 ^^^
      rotateLeft (parities.getD ((i % 5 + 1) % 5) 0) 1

/-- Rotate every word and move it to its new place: the word at `(x, y)` goes to
`(y, 2 * x + 3 * y)`. Place `(u, v)` therefore receives the word at `(u + 3 * v, u)`. -/
def rotateAndMove (state : State) : State :=
  Array.ofFn fun i : Fin 25 =>
    let x := (i % 5 + 3 * (i / 5)) % 5
    let source := x + 5 * (i % 5)
    rotateLeft (state.word source) (rotations.getD source 0)

/-- Combine every word with its two right neighbours in the row. -/
def combineRows (state : State) : State :=
  Array.ofFn fun i : Fin 25 =>
    let row := 5 * (i / 5)
    state.word i ^^^
      (state.word (row + (i % 5 + 1) % 5) ^^^ 0xFFFFFFFFFFFFFFFF) &&& state.word (row + (i % 5 + 2) % 5)

def round (state : State) (constant : UInt64) : State :=
  let mixed := combineRows (rotateAndMove (mixColumns state))
  mixed.setIfInBounds 0 (mixed.word 0 ^^^ constant)

def permute (state : State) : State := roundConstants.foldl round state

/-- Bytes as one word, low byte first. -/
def wordOfBytes (bytes : List UInt8) : UInt64 :=
  bytes.foldr (fun byte word => word <<< 8 ||| byte.toUInt64) 0

/-- The eight bytes of a word, low byte first. -/
def bytesOfWord (word : UInt64) : List UInt8 :=
  (List.range 8).map fun i => (word >>> UInt64.ofNat (8 * i)).toUInt8

/-- The number of bytes that one block absorbs. -/
def rate : Nat := 136

def pieces {α : Type} (size : Nat) (items : List α) : List (List α) :=
  if items = [] ∨ size = 0 then []
  else items.take size :: pieces size (items.drop size)
termination_by items.length
decreasing_by
  rename_i h
  simp only [not_or] at h
  have := List.length_pos_iff.mpr h.1
  simp only [List.length_drop]
  omega

/-- What is appended to a message of the given length to fill its last block. -/
def padding (length : Nat) : List UInt8 :=
  let missing := rate - length % rate
  if missing = 1 then [0x81] else 0x01 :: List.replicate (missing - 2) 0 ++ [0x80]

/-- Mix a block into the state and permute it. -/
def absorb (state : State) (block : List UInt8) : State :=
  let words := ((pieces 8 block).map wordOfBytes).toArray
  permute (Array.ofFn fun i : Fin 25 => state.word i ^^^ words.getD i 0)

def digest (message : List UInt8) : List UInt8 :=
  let blocks := pieces rate (message ++ padding message.length)
  let final := blocks.foldl absorb (Array.replicate 25 0)
  ((List.range 4).flatMap fun i => bytesOfWord (final.word i)).take 32

def digestText (text : String) : List UInt8 := digest text.toUTF8.toList

end SourceAttest.Keccak
