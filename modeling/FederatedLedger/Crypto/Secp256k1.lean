import FederatedLedger.Crypto.Keccak
import FederatedLedger.Crypto.Sha256

/-!
# Signatures on secp256k1

The curve `y² = x³ + 7` over the integers modulo `fieldPrime`, the multiples of its base point, and
signatures whose nonce is derived from the secret key and the digest alone, so that signing is a
function. Of the two values `s` and `order - s` that verify, a signature holds the smaller.
-/

namespace FederatedLedger
namespace Secp256k1

/-- The prime of the coordinate field. -/
def fieldPrime : Nat := 0xFFFFFFFFFFFFFFFFFFFFFFFFFFFFFFFFFFFFFFFFFFFFFFFFFFFFFFFEFFFFFC2F

/-- The number of points of the curve. -/
def order : Nat := 0xFFFFFFFFFFFFFFFFFFFFFFFFFFFFFFFEBAAEDCE6AF48A03BBFD25E8CD0364141

/-- `base ^ exponent` modulo `m`, over the bits of the exponent from the least, at most `fuel` of them. -/
def powerMod (m : Nat) : Nat → Nat → Nat → Nat
  | 0, _, _ => 1 % m
  | fuel + 1, base, exponent =>
    let rest := powerMod m fuel (base * base % m) (exponent / 2)
    if exponent % 2 = 1 then base * rest % m else rest

/-- The inverse modulo a prime below `2 ^ 256`, for numbers that have one. -/
def inverseMod (m a : Nat) : Nat := powerMod m 256 (a % m) (m - 2)

/-- A point in projective form: `(x / z², y / z³)`, or the neutral point if `z` is zero. -/
structure Point where
  x : Nat
  y : Nat
  z : Nat

namespace Point

/-- Multiplication of coordinates. -/
def mul (a b : Nat) : Nat := a * b % fieldPrime

/-- Subtraction of coordinates. -/
def sub (a b : Nat) : Nat := (a + fieldPrime - b % fieldPrime) % fieldPrime

def neutral : Point := ⟨1, 1, 0⟩

/-- The base point. -/
def base : Point :=
  ⟨0x79BE667EF9DCBBAC55A06295CE870B07029BFCDB2DCE28D959F2815B16F81798,
   0x483ADA7726A3C4655DA4FBFC0E1108A8FD17B448A68554199C47D08FFB10D4B8, 1⟩

/-- A point added to itself. -/
def double (p : Point) : Point :=
  let a := mul p.x p.x
  let b := mul p.y p.y
  let c := mul b b
  let d := mul 2 (sub (sub (mul (p.x + b) (p.x + b)) a) c)
  let e := mul 3 a
  let x := sub (mul e e) (mul 2 d)
  ⟨x, sub (mul e (sub d x)) (mul 8 c), mul (2 * p.y) p.z⟩

/-- The sum of two points. -/
def add (p q : Point) : Point :=
  if p.z = 0 then q
  else if q.z = 0 then p
  else
    let pz := mul p.z p.z
    let qz := mul q.z q.z
    let u := mul p.x qz
    let v := mul q.x pz
    let s := mul p.y (mul q.z qz)
    let t := mul q.y (mul p.z pz)
    let h := sub v u
    let r := sub t s
    if h = 0 then (if r = 0 then p.double else neutral)
    else
      let hh := mul h h
      let hhh := mul h hh
      let w := mul u hh
      let x := sub (sub (mul r r) hhh) (mul 2 w)
      ⟨x, sub (mul r (sub w x)) (mul s hhh), mul h (mul p.z q.z)⟩

/-- `n` times a point, over the bits of `n` from the least, at most `fuel` of them. -/
def multiple : Nat → Point → Nat → Point
  | 0, _, _ => neutral
  | fuel + 1, p, n =>
    let rest := multiple fuel p.double (n / 2)
    if n % 2 = 1 then p.add rest else rest

/-- The coordinates of a point that is not neutral. -/
def coordinates (p : Point) : Nat × Nat :=
  let i := inverseMod fieldPrime p.z
  let ii := mul i i
  (mul p.x ii, mul p.y (mul i ii))

end Point

/-- The coordinates of the public point of a secret key. -/
def publicPoint (secret : Nat) : Nat × Nat :=
  (Point.multiple 256 Point.base secret).coordinates

/-- The account of a secret key: the last 20 bytes of the hash of the two coordinates. -/
def account (secret : Nat) : Bytes :=
  let (x, y) := publicPoint secret
  (Keccak.hash (Bytes.bigEndian 32 x ++ Bytes.bigEndian 32 y)).drop 12

/-- The digits of an account, a letter in upper case where the hash of the digits has a digit of at least 8
(`Address::to_checksum`): a spelling that guards against typing errors. -/
def checksummed (account : Bytes) : String :=
  let digits := account.flatMap Hex.ofByte
  let guards := (Keccak.hash (digits.map fun c => UInt8.ofNat c.toNat)).flatMap
    fun b => [b.toNat / 16, b.toNat % 16]
  let spelled := digits.zipWith (fun c g => if 8 ≤ g then c.toUpper else c) guards
  String.ofList ('0' :: 'x' :: spelled)

/-- The state of the nonce generator. -/
structure NonceState where
  key : Bytes
  value : Bytes

/-- Takes in a byte and the seed. -/
def NonceState.mix (s : NonceState) (tag : UInt8) (seed : Bytes) : NonceState :=
  let key := Sha256.hmac s.key (s.value ++ tag :: seed)
  ⟨key, Sha256.hmac key s.value⟩

/-- The first of at most `fuel` candidates that is a possible nonce. -/
def NonceState.next? : Nat → NonceState → Option Nat
  | 0, _ => none
  | fuel + 1, s =>
    let value := Sha256.hmac s.key s.value
    let k := Bytes.bigEndianValue value
    if 0 < k ∧ k < order then some k
    else NonceState.next? fuel (NonceState.mix ⟨s.key, value⟩ 0 [])

/-- The nonce for a secret key and a digest. A candidate fails with a probability below `2 ^ -127`. -/
def nonce? (secret digest : Nat) : Option Nat :=
  let seed := Bytes.bigEndian 32 secret ++ Bytes.bigEndian 32 (digest % order)
  let start : NonceState := ⟨List.replicate 32 0, List.replicate 32 1⟩
  NonceState.next? 64 ((start.mix 0 seed).mix 1 seed)

/-- A signature, with the parity of the nonce point that lets the public point be found again. -/
structure Signature where
  r : Nat
  s : Nat
  odd : Bool
deriving DecidableEq, Repr

/-- The signature of a digest; `none` if it is degenerate. -/
def sign? (secret : Nat) (digest : Bytes) : Option Signature := do
  let z := Bytes.bigEndianValue digest
  let k ← nonce? secret z
  let (x, y) := (Point.multiple 256 Point.base k).coordinates
  let r := x % order
  let s := inverseMod order k * (z + r * secret) % order
  guard (r ≠ 0 ∧ s ≠ 0)
  let odd := y % 2 = 1
  return if order / 2 < s then ⟨r, order - s, !odd⟩ else ⟨r, s, odd⟩

/-- A signature as 65 bytes: `r`, `s` and 27 or 28 for the parity. -/
def Signature.bytes (g : Signature) : Bytes :=
  Bytes.bigEndian 32 g.r ++ Bytes.bigEndian 32 g.s ++ [if g.odd then 28 else 27]

theorem length_account (secret : Nat) : (account secret).length = 20 := by
  simp [account, Keccak.length_hash]

theorem Signature.length_bytes (g : Signature) : g.bytes.length = 65 := by
  simp [Signature.bytes, Bytes.length_bigEndian]

end Secp256k1
end FederatedLedger
