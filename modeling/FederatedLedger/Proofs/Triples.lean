import FederatedLedger.Proofs.ByteOrder
import FederatedLedger.Url.Percent
import Mathlib.Data.List.Flatten

/-!
# Percent triples in texts

Encoding a text does not change what it stands for (`Percent.decode_encode`): a character that is encoded stands for its
own bytes before and after, and no triple comes or goes, as neither percent signs nor digits are encoded. A text stands
for its own bytes exactly if no triple is in it (`Percent.decode_eq_utf8_iff`), as every triple makes it shorter.
-/

namespace FederatedLedger
namespace Percent
variable {set cs r : List Char} {c : Char}

/-! ## Reading -/

def isDigit (c : Char) : Bool := (Hex.digitValue? c).isSome

/-- Whether two digits stand at the front of a text. -/
def startsPair : List Char → Bool
  | a :: b :: _ => isDigit a && isDigit b
  | _ => false

/-- Whether a percent triple stands in a text. -/
def hasTriple : List Char → Bool
  | [] => false
  | c :: r => (c == '%' && startsPair r) || hasTriple r

theorem startsPair_cons (a b : Char) (r : List Char) : startsPair (a :: b :: r) = (isDigit a && isDigit b) := rfl

theorem decode_triple {a b : Char} (h : startsPair (a :: b :: r) = true) :
    ∃ byte, ∀ rest, decode ('%' :: a :: b :: rest) = byte :: decode rest := by
  simp only [startsPair_cons, isDigit, Bool.and_eq_true, Option.isSome_iff_exists] at h
  obtain ⟨⟨x, hx⟩, y, hy⟩ := h
  exact ⟨UInt8.ofNat (16 * x + y), fun rest => by simp [decode, hx, hy]⟩

/-- What is no triple stands for itself. -/
theorem decode_cons (h : c ≠ '%' ∨ startsPair r = false) : decode (c :: r) = charBytes c ++ decode r := by
  by_cases hc : c = '%'
  · subst hc
    have hpair := h.resolve_left (by simp)
    match r, hpair with
    | [], _ | [a], _ => rw [decode.eq_3 _ _ (by simp)]
    | a :: b :: r, hpair =>
      rw [startsPair_cons, Bool.and_eq_false_iff] at hpair
      rw [decode]
      split
      · rename_i x y hx hy
        simp [isDigit, hx, hy] at hpair
      · rfl
  · exact decode.eq_3 _ _ (by simp [hc])

/-- Induction by triples: a text starts with one, or with a character that is part of none. -/
theorem triple_induction {P : List Char → Prop} (nil : P [])
    (triple : ∀ a b r, startsPair (a :: b :: r) = true → P r → P ('%' :: a :: b :: r))
    (plain : ∀ c r, c ≠ '%' ∨ startsPair r = false → P r → P (c :: r)) : ∀ cs, P cs
  | [] => nil
  | [c] => plain c [] (.inr rfl) nil
  | [c, a] => plain c [a] (.inr rfl) (plain a [] (.inr rfl) nil)
  | c :: a :: b :: r => by
    by_cases h : c = '%' ∧ startsPair (a :: b :: r) = true
    · obtain ⟨rfl, hpair⟩ := h
      exact triple a b r hpair (triple_induction nil triple plain r)
    · rw [Decidable.not_and_iff_not_or_not, Bool.not_eq_true] at h
      exact plain c _ h (triple_induction nil triple plain (a :: b :: r))

/-! ## Encoding -/

/-- Whether a character is encoded. -/
def isEncoded (set : List Char) (c : Char) : Bool := isUnwritten c || set.contains c

theorem encode_cons (set : List Char) (c : Char) (r : List Char) : encode set (c :: r) =
    (if isEncoded set c then (charBytes c).flatMap ofByte else [c]) ++ encode set r := rfl

theorem decode_ofByte (b : UInt8) (r : List Char) : decode (ofByte b ++ r) = b :: decode r := by
  have hb := b.toNat_lt
  have hdigit : ∀ n < 16, Hex.digitValue? (Hex.upperDigit n) = some n := by decide
  have hvalue : 16 * (b.toNat / 16) + b.toNat % 16 = b.toNat := Nat.div_add_mod _ _
  rw [ofByte, List.cons_append, List.cons_append, List.cons_append, List.nil_append, decode,
    hdigit _ (by omega), hdigit _ (Nat.mod_lt _ (by omega))]
  simp [hvalue]

theorem decode_ofBytes (bs : Bytes) (r : List Char) : decode (bs.flatMap ofByte ++ r) = bs ++ decode r := by
  induction bs with
  | nil => rfl
  | cons b bs ih => rw [List.flatMap_cons, List.append_assoc, decode_ofByte, ih, List.cons_append]

theorem charBytes_eq (c : Char) : charBytes c = String.utf8EncodeChar c := by
  simp [charBytes, utf8_eq]

theorem utf8_cons (c : Char) (r : List Char) : utf8 (String.ofList (c :: r)) = charBytes c ++ utf8 (String.ofList r) := by
  simp [charBytes, utf8_eq]

/-- A set that encodes neither percent signs nor digits. -/
def KeepsTriples (set : List Char) : Prop := ∀ c ∈ set, c ≠ '%' ∧ isDigit c = false

theorem isEncoded_of_isDigit (hset : KeepsTriples set) (hc : isDigit c = true) : isEncoded set c = false := by
  have hunwritten : isUnwritten c = false :=
    forall_ascii (P := fun c => isDigit c = true → isUnwritten c = false) (by decide) c
      (Hex.toNat_lt_of_isSome_digitValue? hc) hc
  have hmem : c ∉ set := fun hmem => by simp [(hset c hmem).2] at hc
  simp [isEncoded, hunwritten, hmem]

theorem isEncoded_percent (hset : KeepsTriples set) : isEncoded set '%' = false := by
  have hmem : '%' ∉ set := fun hmem => (hset '%' hmem).1 rfl
  have hunwritten : isUnwritten '%' = false := by decide
  simp [isEncoded, hmem, hunwritten]

/-- What is encoded starts with a digit if the text does. -/
theorem head_encode (hset : KeepsTriples set) (c : Char) (r : List Char) :
    ∃ d rest, encode set (c :: r) = d :: rest ∧ isDigit d = isDigit c := by
  rw [encode_cons]
  split
  · rename_i hc
    have hdigit : isDigit c = false := by
      rw [← Bool.not_eq_true]
      intro hdigit
      rw [isEncoded_of_isDigit hset hdigit] at hc
      cases hc
    cases hbytes : charBytes c with
    | nil => exact absurd hbytes (by rw [charBytes_eq]; exact String.utf8EncodeChar_ne_nil)
    | cons b bs => exact ⟨'%', _, rfl, hdigit.symm ▸ by decide⟩
  · exact ⟨c, _, rfl, rfl⟩

theorem encode_cons_of_isDigit (hset : KeepsTriples set) (hc : isDigit c = true) :
    encode set (c :: r) = c :: encode set r := by
  rw [encode_cons, isEncoded_of_isDigit hset hc]
  rfl

/-- Encoding makes no pair of digits, and takes none away. -/
theorem startsPair_encode (hset : KeepsTriples set) (cs : List Char) : startsPair (encode set cs) = startsPair cs := by
  match cs with
  | [] => rfl
  | [a] =>
    by_cases ha : isDigit a = true
    · rw [encode_cons_of_isDigit hset ha]
      rfl
    · obtain ⟨d, rest, hd, hdigit⟩ := head_encode hset a []
      rw [hd]
      cases rest with
      | nil => rfl
      | cons e rest => simp [startsPair, hdigit, ha]
  | a :: b :: r =>
    by_cases ha : isDigit a = true
    · obtain ⟨d, rest, hd, hdigit⟩ := head_encode hset b r
      rw [encode_cons_of_isDigit hset ha, hd, startsPair_cons, startsPair_cons, hdigit]
    · obtain ⟨d, rest, hd, hdigit⟩ := head_encode hset a (b :: r)
      rw [hd]
      cases rest with
      | nil => simp [startsPair, ha]
      | cons e rest => simp [startsPair, hdigit, ha]

/-- **Encoding does not change what a text stands for.** -/
theorem decode_encode (hset : KeepsTriples set) (cs : List Char) : decode (encode set cs) = decode cs := by
  induction cs using triple_induction with
  | nil => rfl
  | triple a b r hpair ih =>
    have hdigits := Bool.and_eq_true_iff.1 hpair
    obtain ⟨byte, hbyte⟩ := decode_triple hpair
    have hencode : encode set ('%' :: a :: b :: r) = '%' :: a :: b :: encode set r := by
      rw [encode_cons, isEncoded_percent hset, encode_cons_of_isDigit hset hdigits.1,
        encode_cons_of_isDigit hset hdigits.2]
      rfl
    rw [hencode, hbyte, hbyte, ih]
  | plain c r h ih =>
    rw [decode_cons h, encode_cons]
    split
    · rw [decode_ofBytes, ih]
    · rw [← startsPair_encode hset] at h
      rw [List.singleton_append, decode_cons h, ih]

/-! ## Texts that stand for themselves -/

theorem hasTriple_cons (h : c ≠ '%' ∨ startsPair r = false) : hasTriple (c :: r) = hasTriple r := by
  have hfront : (c == '%' && startsPair r) = false := by
    rcases h with hc | hr <;> simp [*]
  rw [hasTriple, hfront, Bool.false_or]

theorem decode_of_not_hasTriple (h : hasTriple cs = false) : decode cs = utf8 (String.ofList cs) := by
  induction cs using triple_induction with
  | nil => rfl
  | triple a b r hpair ih => simp [hasTriple, hpair] at h
  | plain c r hc ih => rw [decode_cons hc, utf8_cons, ih (hasTriple_cons hc ▸ h)]

theorem not_hasTriple_of_not_mem (h : '%' ∉ cs) : hasTriple cs = false := by
  induction cs with
  | nil => rfl
  | cons c r ih =>
    rw [List.mem_cons, not_or] at h
    rw [hasTriple_cons (.inl (Ne.symm h.1)), ih h.2]

theorem one_le_length_charBytes (c : Char) : 1 ≤ (charBytes c).length := by
  rw [charBytes_eq]
  exact List.length_pos_iff.2 String.utf8EncodeChar_ne_nil

/-- A triple stands for one byte and takes three. -/
theorem length_decode_lt (h : hasTriple cs = true) : (decode cs).length < (utf8 (String.ofList cs)).length := by
  induction cs using triple_induction with
  | nil => cases h
  | triple a b r hpair ih =>
    obtain ⟨byte, hbyte⟩ := decode_triple hpair
    have hrest : (decode r).length ≤ (utf8 (String.ofList r)).length := by
      cases hr : hasTriple r with
      | false => exact Nat.le_of_eq (congrArg List.length (decode_of_not_hasTriple hr))
      | true => exact Nat.le_of_lt (ih hr)
    have hpercent := one_le_length_charBytes '%'
    have ha := one_le_length_charBytes a
    rw [hbyte, utf8_cons, utf8_cons, utf8_cons]
    simp only [List.length_cons, List.length_append]
    have hb := one_le_length_charBytes b
    omega
  | plain c r hc ih =>
    rw [decode_cons hc, utf8_cons, List.length_append, List.length_append, Nat.add_lt_add_iff_left]
    exact ih (hasTriple_cons hc ▸ h)

theorem length_decode_le (cs : List Char) : (decode cs).length ≤ (utf8 (String.ofList cs)).length := by
  cases h : hasTriple cs with
  | false => exact Nat.le_of_eq (congrArg List.length (decode_of_not_hasTriple h))
  | true => exact Nat.le_of_lt (length_decode_lt h)

/-- **A text stands for its own bytes exactly if no triple is in it.** -/
theorem decode_eq_utf8_iff : decode cs = utf8 (String.ofList cs) ↔ hasTriple cs = false := by
  refine ⟨fun h => ?_, decode_of_not_hasTriple⟩
  rw [← Bool.not_eq_true]
  intro htriple
  have hlt := length_decode_lt htriple
  rw [h] at hlt
  exact Nat.lt_irrefl _ hlt

/-- A part of a text that takes as many bytes as the text is all of it. -/
theorem eq_of_sublist {part : List Char} (h : part.Sublist cs)
    (hbytes : (utf8 (String.ofList cs)).length ≤ (utf8 (String.ofList part)).length) : part = cs := by
  rw [utf8_eq, utf8_eq, String.toList_ofList, String.toList_ofList] at hbytes
  have heq := (h.flatMap String.utf8EncodeChar).eq_of_length_le hbytes
  have hutf8 : utf8 (String.ofList part) = utf8 (String.ofList cs) := by
    rw [utf8_eq, utf8_eq, String.toList_ofList, String.toList_ofList, heq]
  simpa using congrArg String.toList (utf8_injective hutf8)

end Percent
end FederatedLedger
