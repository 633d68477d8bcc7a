import FederatedLedger.Crypto.Words

/-!
# SHA-256 and its message authentication code

The hash works on blocks of 64 bytes; each round takes the first word of a window of sixteen and adds a
new one at its end. `hmac` keys the hash.
-/

namespace FederatedLedger
namespace Sha256

/-- The eight words of the compression function. -/
structure Registers where
  a : UInt32
  b : UInt32
  c : UInt32
  d : UInt32
  e : UInt32
  f : UInt32
  g : UInt32
  h : UInt32

/-- The words before the first block. -/
def initial : Registers :=
  ⟨0x6a09e667, 0xbb67ae85, 0x3c6ef372, 0xa54ff53a, 0x510e527f, 0x9b05688c, 0x1f83d9ab, 0x5be0cd19⟩

/-- The constant of each round. -/
def roundConstants : List UInt32 :=
  [0x428a2f98, 0x71374491, 0xb5c0fbcf, 0xe9b5dba5, 0x3956c25b, 0x59f111f1, 0x923f82a4, 0xab1c5ed5,
   0xd807aa98, 0x12835b01, 0x243185be, 0x550c7dc3, 0x72be5d74, 0x80deb1fe, 0x9bdc06a7, 0xc19bf174,
   0xe49b69c1, 0xefbe4786, 0x0fc19dc6, 0x240ca1cc, 0x2de92c6f, 0x4a7484aa, 0x5cb0a9dc, 0x76f988da,
   0x983e5152, 0xa831c66d, 0xb00327c8, 0xbf597fc7, 0xc6e00bf3, 0xd5a79147, 0x06ca6351, 0x14292967,
   0x27b70a85, 0x2e1b2138, 0x4d2c6dfc, 0x53380d13, 0x650a7354, 0x766a0abb, 0x81c2c92e, 0x92722c85,
   0xa2bfe8a1, 0xa81a664b, 0xc24b8b70, 0xc76c51a3, 0xd192e819, 0xd6990624, 0xf40e3585, 0x106aa070,
   0x19a4c116, 0x1e376c08, 0x2748774c, 0x34b0bcb5, 0x391c0cb3, 0x4ed8aa4a, 0x5b9cca4f, 0x682e6ff3,
   0x748f82ee, 0x78a5636f, 0x84c87814, 0x8cc70208, 0x90befffa, 0xa4506ceb, 0xbef9a3f7, 0xc67178f2]

/-- Turns a word right by `n` bits, `0 < n < 32`. -/
def turn (w : UInt32) (n : UInt32) : UInt32 := (w >>> n) ||| (w <<< (32 - n))

/-- One round with the given constant and message word. -/
def round (r : Registers) (constant word : UInt32) : Registers :=
  let s1 := turn r.e 6 ^^^ turn r.e 11 ^^^ turn r.e 25
  let choice := (r.e &&& r.f) ^^^ (~~~ r.e &&& r.g)
  let t1 := r.h + s1 + choice + constant + word
  let s0 := turn r.a 2 ^^^ turn r.a 13 ^^^ turn r.a 22
  let majority := (r.a &&& r.b) ^^^ (r.a &&& r.c) ^^^ (r.b &&& r.c)
  ⟨t1 + (s0 + majority), r.a, r.b, r.c, r.d + t1, r.e, r.f, r.g⟩

/-- Moves the window of message words on by one. -/
def shift (window : List UInt32) : List UInt32 :=
  let w (i : Nat) := window.getD i 0
  let s0 := turn (w 1) 7 ^^^ turn (w 1) 18 ^^^ (w 1 >>> 3)
  let s1 := turn (w 14) 17 ^^^ turn (w 14) 19 ^^^ (w 14 >>> 10)
  window.drop 1 ++ [w 0 + s0 + w 9 + s1]

/-- Adds a block of 64 bytes to the registers. -/
def compress (r : Registers) (block : Bytes) : Registers :=
  let words := (Bytes.blocks 4 16 block).map fun b => UInt32.ofNat (Bytes.bigEndianValue b)
  let (t, _) := roundConstants.foldl
    (fun (t, window) constant => (round t constant (window.getD 0 0), shift window)) (r, words)
  ⟨r.a + t.a, r.b + t.b, r.c + t.c, r.d + t.d, r.e + t.e, r.f + t.f, r.g + t.g, r.h + t.h⟩

/-- A message padded to whole blocks: a one bit, zeros, and the length in bits. -/
def pad (message : Bytes) : Bytes :=
  let zeros := (119 - message.length % 64) % 64
  message ++ 0x80 :: (List.replicate zeros 0 ++ Bytes.bigEndian 8 (8 * message.length))

/-- The SHA-256 hash of a message, 32 bytes. -/
def hash (message : Bytes) : Bytes :=
  let padded := pad message
  let r := (Bytes.blocks 64 (padded.length / 64) padded).foldl compress initial
  [r.a, r.b, r.c, r.d, r.e, r.f, r.g, r.h].flatMap fun w => Bytes.bigEndian 4 w.toNat

/-- The keyed hash of a message, for keys of at most 64 bytes. -/
def hmac (key message : Bytes) : Bytes :=
  let key := key ++ List.replicate (64 - key.length) 0
  let inner := hash (key.map (· ^^^ 0x36) ++ message)
  hash (key.map (· ^^^ 0x5c) ++ inner)

end Sha256
end FederatedLedger
