import FederatedLedger.Proofs.Signature

/-!
# Which output a signature spends

What is signed for an input ends with the link to the output that it spends: the id of a transaction and, right after
it, the number of the output. A link is told from no link, and from a link whose id is equally long. But where one id
is the other with digits behind it, and these digits begin the number behind the other, the two links are spelled
alike (`spelling_eq_iff`). Inputs with such links are signed alike (`signedBytes_eq_iff`), and a signature that spends
one output spends the other.
-/

namespace FederatedLedger
namespace OutputLink
variable {a b : OutputLink}

/-- How a link is signed. -/
def spelling (l : OutputLink) : List Char := l.transactionId.toList ++ Nat.toDigits 10 l.outputIndex.toNat

/-- The id of `b` is that of `a` with some more digits, the first ones of the number of `a`, and the number of `b` is
made of the other ones. -/
def RunsInto (a b : OutputLink) : Prop :=
  ∃ digits, digits ≠ [] ∧ b.transactionId.toList = a.transactionId.toList ++ digits ∧
    Nat.toDigits 10 a.outputIndex.toNat = digits ++ Nat.toDigits 10 b.outputIndex.toNat

theorem spelling_ne_nil (l : OutputLink) : l.spelling ≠ [] :=
  List.append_ne_nil_of_right_ne_nil _ Nat.toDigits_ne_nil

theorem RunsInto.length_lt (h : a.RunsInto b) : a.transactionId.length < b.transactionId.length := by
  obtain ⟨digits, hne, hid, -⟩ := h
  rw [← String.length_toList, ← String.length_toList, hid, List.length_append]
  have := List.length_pos_iff.2 hne
  omega

theorem RunsInto.spelling_eq (h : a.RunsInto b) : a.spelling = b.spelling := by
  obtain ⟨digits, -, hid, hnumber⟩ := h
  rw [spelling, spelling, hid, hnumber, List.append_assoc]

/-- Of two links with one spelling, the one with the longer id goes on where the other's number begins. -/
theorem eq_or_runsInto_of_prefix {digits : List Char} (hid : b.transactionId.toList = a.transactionId.toList ++ digits)
    (hnumber : Nat.toDigits 10 a.outputIndex.toNat = digits ++ Nat.toDigits 10 b.outputIndex.toNat) :
    a = b ∨ a.RunsInto b := by
  cases digits with
  | nil =>
    left
    have hindex := congrArg (Nat.ofDigitChars 10 · 0) hnumber
    simp only [List.nil_append, Nat.ofDigitChars_ten_toDigits] at hindex
    rw [List.append_nil] at hid
    cases a; cases b
    exact OutputLink.mk.injEq .. ▸ ⟨(String.toList_inj.1 hid).symm, UInt32.toNat_inj.1 hindex⟩
  | cons d ds => exact .inr ⟨d :: ds, List.cons_ne_nil _ _, hid, hnumber⟩

theorem spelling_eq_iff : a.spelling = b.spelling ↔ a = b ∨ a.RunsInto b ∨ b.RunsInto a := by
  constructor
  · intro h
    rcases List.append_eq_append_iff.1 h with ⟨digits, hid, hnumber⟩ | ⟨digits, hid, hnumber⟩
    · rcases eq_or_runsInto_of_prefix hid hnumber with heq | hruns
      · exact .inl heq
      · exact .inr (.inl hruns)
    · rcases eq_or_runsInto_of_prefix hid hnumber with heq | hruns
      · exact .inl heq.symm
      · exact .inr (.inr hruns)
  · rintro (rfl | hruns | hruns)
    · rfl
    · exact hruns.spelling_eq
    · exact hruns.spelling_eq.symm

end OutputLink

namespace Transaction
variable {t s : Transaction} {keys : List Keypair} {message : String} {i j x y : Input}

/-- What is signed for an input: the message, and the spelling of the link if there is one. -/
theorem toList_payload_eq (message : String) (i : Input) :
    (payload message i).toList = message.toList ++ (i.fulfills.map OutputLink.spelling).getD [] := by
  unfold payload
  cases i.fulfills with
  | none => simp
  | some l => simp [OutputLink.spelling]

theorem signedBytes_eq_iff_spelling :
    t.signedBytes i = t.signedBytes j ↔ (i.fulfills.map OutputLink.spelling).getD [] =
      (j.fulfills.map OutputLink.spelling).getD [] := by
  have hbytes : t.signedBytes i = t.signedBytes j ↔ (payload t.message i).toList = (payload t.message j).toList :=
    ⟨fun h => congrArg String.toList (utf8_injective h), fun h => congrArg utf8 (String.toList_inj.1 h)⟩
  rw [hbytes, toList_payload_eq, toList_payload_eq, List.append_cancel_left_eq]

/-- The same owners give the same signatures for the same bytes. -/
theorem fulfillment_eq_of_signedInputs {signed : List Input} (hpayload : payload message i = payload message j)
    (howners : i.ownersBefore = j.ownersBefore) (h : signedInputs keys message [i, j] = .ok signed) :
    ∃ x y, signed = [x, y] ∧ x.fulfillment = y.fulfillment := by
  obtain ⟨first, rest, hfirst, hrest, rfl⟩ := signedInputs_cons_eq_ok.1 h
  obtain ⟨second, none, hsecond, hnone, rfl⟩ := signedInputs_cons_eq_ok.1 hrest
  obtain rfl : [] = none := Except.ok.inj hnone
  rw [hpayload, howners, hsecond] at hfirst
  obtain rfl := Except.ok.inj hfirst
  exact ⟨_, _, rfl, rfl⟩

theorem fulfillment_eq_of_sign (hin : t.inputs = [i, j]) (howners : i.ownersBefore = j.ownersBefore)
    (hbytes : t.signedBytes i = t.signedBytes j) (h : t.sign keys = .ok s) :
    ∃ x y, s.inputs = [x, y] ∧ x.fulfillment = y.fulfillment := by
  obtain ⟨-, inputs, hsigned, rfl⟩ := sign_eq_ok.1 h
  rw [hin] at hsigned
  exact fulfillment_eq_of_signedInputs (utf8_injective hbytes) howners hsigned

/-- **The output that a signature spends.** The bytes that are signed for two inputs of a transaction are the same iff
the inputs have the same link, or links of which one runs into the other. Links with ids of one length never do. -/
theorem signedBytes_eq_iff (t : Transaction) (i j : Input) :
    (t.signedBytes i = t.signedBytes j ↔ i.fulfills = j.fulfills ∨
      ∃ a b, i.fulfills = some a ∧ j.fulfills = some b ∧ (a.RunsInto b ∨ b.RunsInto a)) ∧
    ∀ a b, i.fulfills = some a → j.fulfills = some b → a.transactionId.length = b.transactionId.length →
      (t.signedBytes i = t.signedBytes j ↔ a = b) := by
  rw [signedBytes_eq_iff_spelling]
  constructor
  · cases i.fulfills with
    | none => cases j.fulfills with
      | none => simp
      | some b => simpa using (OutputLink.spelling_ne_nil b).symm
    | some a => cases j.fulfills with
      | none => simpa using OutputLink.spelling_ne_nil a
      | some b => simpa using OutputLink.spelling_eq_iff
  · rintro a b ha hb hlength
    rw [ha, hb]
    refine OutputLink.spelling_eq_iff.trans ⟨?_, .inl⟩
    rintro (heq | hruns | hruns)
    · exact heq
    · exact absurd hlength (Nat.ne_of_lt hruns.length_lt)
    · exact absurd hlength.symm (Nat.ne_of_lt hruns.length_lt)

/-- Two outputs of one transaction whose numbers begin alike are told apart, as the ids are equally long. -/
theorem signedBytes_eq_iff_numbers : ∃ (t : Transaction) (i j : Input), i ∈ t.inputs ∧ j ∈ t.inputs ∧
    i.fulfills = some ⟨"a", 1⟩ ∧ j.fulfills = some ⟨"a", 12⟩ ∧ "a".length = "a".length ∧
    t.signedBytes i ≠ t.signedBytes j := by
  let i : Input := ⟨["0xA"], some ⟨"a", 1⟩, none⟩
  let j : Input := ⟨["0xA"], some ⟨"a", 12⟩, none⟩
  let t : Transaction := ⟨none, "2.0", .transfer, .link "a", none, [i, j], []⟩
  have hlinks := (signedBytes_eq_iff t i j).2 ⟨"a", 1⟩ ⟨"a", 12⟩ rfl rfl rfl
  exact ⟨t, i, j, by simp [t], by simp [t], rfl, rfl, rfl, fun h => absurd (hlinks.1 h) (by decide)⟩

/-- Output 12 of the transaction `a` and output 2 of the transaction `a1` are signed alike: whatever the keys, the
signatures that spend the one are those that spend the other. -/
theorem links_run_together : ∃ (t : Transaction) (i j : Input), t.inputs = [i, j] ∧
    i.fulfills = some ⟨"a", 12⟩ ∧ j.fulfills = some ⟨"a1", 2⟩ ∧ t.signedBytes i = t.signedBytes j ∧
    ∀ keys s, t.sign keys = .ok s → ∃ x y, s.inputs = [x, y] ∧ x.fulfillment = y.fulfillment := by
  let owner := "0xf39Fd6e51aad88F6F4ce6aB8827279cffFb92266"
  let i : Input := ⟨[owner], some ⟨"a", 12⟩, none⟩
  let j : Input := ⟨[owner], some ⟨"a1", 2⟩, none⟩
  let details : ConditionDetails := ⟨"ecdsa-secp256k1", some owner, none, []⟩
  let t : Transaction := ⟨none, "2.0", .transfer, .link "a", none, [i, j], [⟨[owner], "1", ⟨details, "ni:///x"⟩⟩]⟩
  have hruns : OutputLink.RunsInto ⟨"a", 12⟩ ⟨"a1", 2⟩ := ⟨['1'], by decide, by decide, by decide⟩
  have hbytes : t.signedBytes i = t.signedBytes j := signedBytes_eq_iff_spelling.2 hruns.spelling_eq
  have hin : t.inputs = [i, j] := rfl
  -- lest Lean evaluate the signing of this transaction
  clear_value t
  exact ⟨t, i, j, hin, rfl, rfl, hbytes, fun _ _ h => fulfillment_eq_of_sign hin rfl hbytes h⟩

end Transaction
end FederatedLedger
