/-!
# Keccak-256

The sponge of rate 1088 over the permutation of 1600 bits, with the padding that starts by a byte
of value one. A state is 25 lanes of 64 bits; lane `x + 5 * y` stands at column `x` of row `y`.
-/

namespace ModularRouter

/-- A storage word, or the digest of some bytes. -/
abbrev Word := BitVec 256

/-- A function from bytes to words, such as `Keccak.digest`. -/
abbrev Digest := List UInt8 → Word

namespace Keccak

/-- The state of the permutation. -/
abbrev Lanes := Vector UInt64 25

/-- How far each lane is rotated, in the order of the lanes. -/
def rotations : Vector UInt64 25 :=
  #v[0, 1, 62, 28, 27, 36, 44, 6, 55, 20, 3, 10, 43, 25, 39, 41, 45, 15, 21, 8, 18, 2, 61, 56, 14]

/-- The constants of the 24 rounds. -/
def roundConstants : List UInt64 :=
  [0x0000000000000001, 0x0000000000008082, 0x800000000000808A, 0x8000000080008000,
    0x000000000000808B, 0x0000000080000001, 0x8000000080008081, 0x8000000000008009,
    0x000000000000008A, 0x0000000000000088, 0x0000000080008009, 0x000000008000000A,
    0x000000008000808B, 0x800000000000008B, 0x8000000000008089, 0x8000000000008003,
    0x8000000000008002, 0x8000000000000080, 0x000000000000800A, 0x800000008000000A,
    0x8000000080008081, 0x8000000000008080, 0x0000000080000001, 0x8000000080008008]

/-- The lane at a column and a row, both taken modulo five. -/
def Lanes.at (state : Lanes) (x y : Nat) : UInt64 :=
  state.get ⟨x % 5 + 5 * (y % 5), by omega⟩

/-- A lane rotated to the left. -/
def rotate (lane count : UInt64) : UInt64 :=
  if count = 0 then lane else (lane <<< count) ||| (lane >>> (64 - count))

/-- The exclusive or of the lanes of a column. -/
def parity (state : Lanes) (x : Nat) : UInt64 :=
  state.at x 0 ^^^ state.at x 1 ^^^ state.at x 2 ^^^ state.at x 3 ^^^ state.at x 4

/-- Adds to each lane the parities of its two neighbouring columns. -/
def theta (state : Lanes) : Lanes :=
  let columns := Vector.ofFn fun x : Fin 5 => parity state x
  Vector.ofFn fun i => state[i] ^^^ columns[(i.val + 4) % 5] ^^^ rotate columns[(i.val + 1) % 5] 1

/-- Rotates the lanes and moves them to their new places. -/
def rhoPi (state : Lanes) : Lanes :=
  let rotated := Vector.ofFn fun i => rotate state[i] rotations[i]
  Vector.ofFn fun i => Lanes.at rotated (i.val % 5 + 3 * (i.val / 5)) (i.val % 5)

/-- Combines each lane with the two after it in its row. -/
def chi (state : Lanes) : Lanes :=
  Vector.ofFn fun i =>
    let x := i.val % 5
    let y := i.val / 5
    state.at x y ^^^ (~~~(state.at (x + 1) y) &&& state.at (x + 2) y)

/-- One round with its constant. -/
def round (state : Lanes) (constant : UInt64) : Lanes :=
  let mixed := chi (rhoPi (theta state))
  mixed.set 0 (mixed[0] ^^^ constant)

/-- The permutation. -/
def permute (state : Lanes) : Lanes :=
  roundConstants.foldl round state

/-- How many bytes are absorbed at a time. -/
def rate : Nat := 136

/-- The lane that bytes spell, the least significant byte first. -/
def laneOfBytes (bytes : List UInt8) : UInt64 :=
  bytes.foldr (fun byte lane => (lane <<< 8) ||| byte.toUInt64) 0

/-- The bytes of a lane, the least significant byte first. -/
def bytesOfLane (lane : UInt64) : List UInt8 :=
  (List.range 8).map fun i => (lane >>> (8 * i.toUInt64)).toUInt8

/-- Adds one block to the state. -/
def xorBlock (state : Lanes) (block : List UInt8) : Lanes :=
  Vector.ofFn fun i => state[i] ^^^ laneOfBytes ((block.drop (8 * i.val)).take 8)

/-- Absorbs `count` blocks. -/
def absorb : (count : Nat) → Lanes → List UInt8 → Lanes
  | 0, state, _ => state
  | count + 1, state, bytes =>
    absorb count (permute (xorBlock state (bytes.take rate))) (bytes.drop rate)

/-- The bytes that fill a message of the given length up to whole blocks. -/
def padding (length : Nat) : List UInt8 :=
  match rate - length % rate with
  | 0 => []
  | 1 => [0x81]
  | missing + 2 => 0x01 :: (List.replicate missing 0 ++ [0x80])

/-- The word whose bytes are given, the most significant first. -/
def wordOfBytes (bytes : List UInt8) : Word :=
  BitVec.ofNat 256 (bytes.foldl (fun value byte => 256 * value + byte.toNat) 0)

/-- The Keccak-256 digest of a message. -/
def digest : Digest := fun message =>
  let padded := message ++ padding message.length
  let state := absorb (padded.length / rate) (Vector.replicate 25 0) padded
  wordOfBytes ((state.toList.take 4).flatMap bytesOfLane)

end Keccak

end ModularRouter
