import FederatedLedger.Crypto.Words

/-!
# Keccak-256

The sponge with a rate of 136 bytes over the permutation Keccak-f[1600], with the padding of Keccak
proper: a one bit, zeros and a one bit. A state is 25 lanes of 64 bits, lane `x + 5 * y` at column
`x` and row `y`.
-/

namespace FederatedLedger
namespace Keccak

/-- The 25 lanes of the permutation. -/
abbrev State := Vector UInt64 25

/-- The state with these lanes. It is made of a list, and `laneAt` looks into one, so that proofs can evaluate hashes. -/
def ofLanes (lane : Nat → UInt64) : State := ⟨((List.range 25).map lane).toArray, by simp⟩

/-- The lane at an index. -/
def laneAt (s : State) (i : Nat) : UInt64 := s.toList.getD i 0

/-- The lane in column `x` and row `y`, both taken modulo 5. -/
def lane (s : State) (x y : Nat) : UInt64 := laneAt s (x % 5 + 5 * (y % 5))

/-- Turns a lane left by `n` bits, `n` below 64. -/
def turn (w : UInt64) (n : Nat) : UInt64 :=
  if n = 0 then w else (w <<< UInt64.ofNat n) ||| (w >>> UInt64.ofNat (64 - n))

/-- How far each lane turns, by index. -/
def offsets : List Nat :=
  [0, 1, 62, 28, 27, 36, 44, 6, 55, 20, 3, 10, 43, 25, 39, 41, 45, 15, 21, 8, 18, 2, 61, 56, 14]

/-- The constant that each round adds to the first lane. -/
def roundConstants : List UInt64 :=
  [0x0000000000000001, 0x0000000000008082, 0x800000000000808A, 0x8000000080008000,
   0x000000000000808B, 0x0000000080000001, 0x8000000080008081, 0x8000000000008009,
   0x000000000000008A, 0x0000000000000088, 0x0000000080008009, 0x000000008000000A,
   0x000000008000808B, 0x800000000000008B, 0x8000000000008089, 0x8000000000008003,
   0x8000000000008002, 0x8000000000000080, 0x000000000000800A, 0x800000008000000A,
   0x8000000080008081, 0x8000000000008080, 0x0000000080000001, 0x8000000080008008]

/-- The parity of each column. -/
def columns (s : State) : List UInt64 :=
  (List.range 5).map fun x =>
    lane s x 0 ^^^ lane s x 1 ^^^ lane s x 2 ^^^ lane s x 3 ^^^ lane s x 4

/-- Adds to every lane the parities of the two columns beside it. -/
def mixColumns (s : State) : State :=
  let parities := columns s
  let column (x : Nat) : UInt64 := parities.getD (x % 5) 0
  ofLanes fun i => laneAt s i ^^^ column (i + 4) ^^^ turn (column (i + 1)) 1

/-- Turns every lane and moves it to its place: column `x`, row `y` comes from column `x + 3 y`, row `x`. -/
def moveLanes (s : State) : State :=
  ofLanes fun i =>
    let x := i % 5
    let y := i / 5
    let source := (x + 3 * y) % 5 + 5 * x
    turn (laneAt s source) (offsets.getD source 0)

/-- Combines every lane with the next two of its row. -/
def mixRows (s : State) : State :=
  ofLanes fun i =>
    let x := i % 5
    let y := i / 5
    laneAt s i ^^^ (~~~ (lane s (x + 1) y) &&& lane s (x + 2) y)

/-- One round of the permutation. -/
def round (s : State) (constant : UInt64) : State :=
  let t := mixRows (moveLanes (mixColumns s))
  t.set 0 (t[0] ^^^ constant)

/-- The permutation Keccak-f[1600]. -/
def permute (s : State) : State := roundConstants.foldl round s

/-- Adds a block of 136 bytes to the first 17 lanes, then permutes. -/
def absorb (s : State) (block : Bytes) : State :=
  let words := Bytes.blocks 8 17 block
  permute (ofLanes fun i =>
    laneAt s i ^^^ UInt64.ofNat (Bytes.littleEndianValue (words.getD i [])))

/-- How many bytes a block takes. -/
def rate : Nat := 136

/-- A message padded to a whole number of blocks. -/
def pad (message : Bytes) : Bytes :=
  let free := rate - message.length % rate
  if free = 1 then message ++ [0x81]
  else message ++ 0x01 :: (List.replicate (free - 2) 0 ++ [0x80])

/-- The Keccak-256 hash of a message, 32 bytes (`keccak256`). -/
def hash (message : Bytes) : Bytes :=
  let count := message.length / rate + 1
  let s := (Bytes.blocks rate count (pad message)).foldl absorb (Vector.replicate 25 0)
  (s.toList.take 4).flatMap fun w => Bytes.littleEndian 8 w.toNat

theorem length_hash (message : Bytes) : (hash message).length = 32 := by
  simp only [hash]
  generalize List.foldl absorb _ _ = s
  simp [List.length_flatMap, Bytes.length_littleEndian, List.map_const']

end Keccak
end FederatedLedger
