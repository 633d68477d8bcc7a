import FederatedLedger.Text.Encoding
import Mathlib.Tactic.SplitIfs

/-!
# The order of texts is the order of their bytes

Texts are compared by their code points. UTF-8 keeps that order (`utf8_lt_iff`): the first byte of a character tells
how many bytes it has, more for a larger one, and among characters of one length the bytes are digits to the base 64.
So names that ascend as texts ascend as bytes.
-/

namespace FederatedLedger

theorem utf8_eq (s : String) : utf8 s = s.toList.flatMap String.utf8EncodeChar := by
  rw [utf8, String.toUTF8, ← String.ofList_toList (s := s), String.toByteArray_ofList, List.utf8Encode,
    String.ofList_toList, List.data_toByteArray]

/-- A smaller number has the smaller quotient, or the same one and the smaller last digit. -/
theorem lastDigit_lt {m n : Nat} (h : m < n) : m / 64 < n / 64 ∨ m / 64 = n / 64 ∧ m % 64 < n % 64 := by
  omega

/-- Numbers are compared by their digits to the base 64, of which the first of four may be larger. -/
theorem digits_lt {m n : Nat} (h : m < n) :
    m / 262144 < n / 262144 ∨ m / 262144 = n / 262144 ∧ (m / 4096 % 64 < n / 4096 % 64 ∨
      m / 4096 % 64 = n / 4096 % 64 ∧ (m / 64 % 64 < n / 64 % 64 ∨ m / 64 % 64 = n / 64 % 64 ∧ m % 64 < n % 64)) := by
  have hquot (n : Nat) : n / 4096 = n / 64 / 64 ∧ n / 262144 = n / 64 / 64 / 64 := by
    rw [Nat.div_div_eq_div_mul, Nat.div_div_eq_div_mul]; exact ⟨rfl, rfl⟩
  have hlast := lastDigit_lt h
  have hthird := @lastDigit_lt (m / 64) (n / 64)
  have hsecond := @lastDigit_lt (m / 64 / 64) (n / 64 / 64)
  rw [(hquot m).1, (hquot n).1, (hquot m).2, (hquot n).2]
  omega

/-- The bytes of a smaller character come first, whatever follows them. -/
theorem utf8EncodeChar_append_lt {c d : Char} (h : c < d) (x y : Bytes) :
    String.utf8EncodeChar c ++ x < String.utf8EncodeChar d ++ y := by
  have hlt : c.toNat < d.toNat := h
  have hd : d.toNat < 0x110000 := by
    have : d.toNat < 0xD800 ∨ 0xDFFF < d.toNat ∧ d.toNat < 0x110000 := d.valid
    omega
  have hdigits := digits_lt hlt
  have hbyte {m n : Nat} (hm : m < 256) (hn : n < 256) : (UInt8.ofNat m < UInt8.ofNat n ↔ m < n) ∧
      (UInt8.ofNat m = UInt8.ofNat n ↔ m = n) := by
    rw [UInt8.lt_iff_toNat_lt, ← UInt8.toNat_inj, UInt8.toNat_ofNat', UInt8.toNat_ofNat', Nat.mod_eq_of_lt hm,
      Nat.mod_eq_of_lt hn]
    exact ⟨Iff.rfl, Iff.rfl⟩
  unfold String.utf8EncodeChar
  rw [Char.toNat_val, Char.toNat_val]
  generalize c.toNat = m at hlt hdigits
  generalize d.toNat = n at hlt hdigits hd
  have htop : m / 262144 % 8 = m / 262144 ∧ n / 262144 % 8 = n / 262144 := by omega
  -- the ranges of the two numbers tell the lengths and the first bytes
  dsimp only
  split_ifs <;>
    (simp only [List.cons_append, List.nil_append, List.cons_lt_cons_iff, htop]
     simp (disch := omega) only [(hbyte _ _).1, (hbyte _ _).2]
     omega)

theorem flatMap_utf8EncodeChar_lt : ∀ {cs ds : List Char}, cs < ds →
    cs.flatMap String.utf8EncodeChar < ds.flatMap String.utf8EncodeChar
  | _, [], h => absurd h (List.not_lt_nil _)
  | [], d :: ds, _ => by
    rw [List.flatMap_nil, List.flatMap_cons]
    cases hd : String.utf8EncodeChar d with
    | nil => exact absurd hd String.utf8EncodeChar_ne_nil
    | cons b bs => exact List.nil_lt_cons _ _
  | c :: cs, d :: ds, h => by
    rw [List.flatMap_cons, List.flatMap_cons]
    rcases List.cons_lt_cons_iff.1 h with hhead | ⟨rfl, htail⟩
    · exact utf8EncodeChar_append_lt hhead _ _
    · exact List.append_left_lt (flatMap_utf8EncodeChar_lt htail)

/-- **Texts are ordered as their bytes are.** -/
theorem utf8_lt_iff {s t : String} : utf8 s < utf8 t ↔ s < t := by
  have hmono {s t : String} (h : s < t) : utf8 s < utf8 t := by
    rw [utf8_eq, utf8_eq]
    exact flatMap_utf8EncodeChar_lt (String.lt_iff.1 h)
  refine ⟨fun h => ?_, hmono⟩
  by_cases hst : s < t
  · exact hst
  · by_cases heq : t = s
    · subst heq
      exact absurd h (List.lt_irrefl _)
    · exact absurd h (List.lt_asymm (hmono (Std.lt_of_le_of_ne (String.not_lt.1 hst) heq)))

end FederatedLedger
