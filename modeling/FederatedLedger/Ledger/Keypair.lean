import FederatedLedger.Crypto.Secp256k1
import FederatedLedger.Text.Blank
import FederatedLedger.Text.Encoding

/-!
# Keypairs

A keypair is a secret below the group order and the public key that it determines: the checksummed
account. `Keypair.parse` reads a secret written in hexadecimal; the only keypairs it can give are those
with `0 < secret < order`, and `ext_secret` says that the secret decides the pair.
-/

namespace FederatedLedger

/-- A signing keypair. -/
structure Keypair where
  secret : Nat
  publicKey : String
  secret_pos : 0 < secret
  secret_lt : secret < Secp256k1.order
  publicKey_eq : publicKey = Secp256k1.checksummed (Secp256k1.account secret)

/-- Why a text is no private key. -/
inductive KeyError where
  | oddLength
  | wrongLength
  /-- The first byte that is no digit, as the character of that number, and its place. -/
  | notDigit (byte : Char) (position : Nat)
  | outOfRange
deriving DecidableEq, Repr

/-- The wording of a key error. -/
def KeyError.message : KeyError → String
  | .oddLength => "odd number of digits"
  | .wrongLength => "invalid string length"
  | .notDigit byte position =>
    "invalid character " ++ Quoted.char byte ++ " at position " ++ toString position
  | .outOfRange => "signature error"

namespace Keypair

/-- The keypair of a secret, if the secret is in range. -/
def ofSecret? (secret : Nat) : Option Keypair :=
  if h : 0 < secret ∧ secret < Secp256k1.order then
    some ⟨secret, _, h.1, h.2, rfl⟩
  else none

/-- A text without one leading `0x`. -/
def dropMark : List Char → List Char
  | '0' :: 'x' :: r => r
  | cs => cs

/-- A text without one leading `0x` or `0X`. -/
def dropAnyMark : List Char → List Char
  | '0' :: 'x' :: r => r
  | '0' :: 'X' :: r => r
  | cs => cs

/-- The first byte that is no hexadecimal digit, with its place, counted from `i`. -/
def firstBad? : Nat → List Char → Option (Char × Nat)
  | _, [] => none
  | i, c :: r => if (Hex.digitValue? c).isSome then firstBad? (i + 1) r else some (c, i)

/-- The bytes of a text, each as the character of that number. -/
def byteChars (cs : List Char) : List Char :=
  (utf8 (String.ofList cs)).map fun b => Char.ofNat b.toNat

/-- The value of hexadecimal digits. -/
def digitsValue (cs : List Char) : Nat :=
  cs.foldl (fun n c => 16 * n + (Hex.digitValue? c).getD 0) 0

/-- Reads a secret of 64 hexadecimal digits: `Keypair::from_private_key` and the reader of the signer library that
it calls. White space around the digits and two marks in front of them, the first of them `0x` and the second `0x`
or `0X`, may be there. -/
def parse (text : String) : Except KeyError Keypair :=
  let digits := dropAnyMark (dropMark (trimBlanks text.toList))
  let bytes := byteChars digits
  if bytes.length % 2 = 1 then .error .oddLength
  else if bytes.length ≠ 64 then .error .wrongLength
  else match firstBad? 0 bytes with
    | some (c, i) => .error (.notDigit c i)
    | none => match ofSecret? (digitsValue bytes) with
      | none => .error .outOfRange
      | some k => .ok k

/-- The secret as 64 lower-case digits (`Keypair::private_key`). -/
def privateKey (k : Keypair) : String := Hex.ofBytes (Bytes.bigEndian 32 k.secret)

/-- Whether a public key names this keypair (`Keypair::owns`): letter case and white space around it do not count.
-/
def owns (k : Keypair) (publicKey : String) : Bool :=
  sameIgnoringCase k.publicKey (trim publicKey)

/-- The signature of the Keccak-256 hash of a message, as hexadecimal digits (`Keypair::sign`). -/
def sign? (k : Keypair) (message : Bytes) : Option String :=
  (Secp256k1.sign? k.secret (Keccak.hash message)).map fun g => Hex.ofBytes g.bytes

/-- The keypair for people: the secret is not shown. -/
def shown (k : Keypair) : String :=
  "Keypair \x7b public_key: " ++ Quoted.text k.publicKey ++ ", .. \x7d"

/-- A signature is written in 130 digits. -/
theorem length_of_sign? {k : Keypair} {message : Bytes} {signature : String} (h : k.sign? message = some signature) :
    signature.length = 130 := by
  obtain ⟨g, -, rfl⟩ := Option.map_eq_some_iff.1 h
  rw [Hex.length_ofBytes, Secp256k1.Signature.length_bytes]

/-- The secret decides the keypair. -/
theorem ext_secret {k l : Keypair} (h : k.secret = l.secret) : k = l := by
  cases k; cases l; simp_all

end Keypair
end FederatedLedger
