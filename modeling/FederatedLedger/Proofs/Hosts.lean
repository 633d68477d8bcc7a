import FederatedLedger.Proofs.ByteOrder
import FederatedLedger.Proofs.IpAddresses
import FederatedLedger.Url.Host

/-!
# Hosts

A host that was read is `Host.Sound`: a name is in ASCII form and no address, an IPv4 address has 32 bits, an IPv6 address
has eight pieces. Such a host is written so that it is read back (`Host.parse_text_of_sound`). `Host.shape_text`
says what the text of a host looks like, so that what reads an address finds where the host ends.
-/

namespace FederatedLedger

/-! ## Characters -/

theorem toNat_lt_of_isDigit {c : Char} (h : c.isDigit = true) : c.toNat < 128 := by
  have hle : c.toNat ≤ 57 := by
    simp only [Char.isDigit, Bool.and_eq_true, decide_eq_true_eq] at h
    exact h.2
  omega

/-! ## Percent triples -/

namespace Percent

/-- A text without percent signs stands for its own bytes. -/
theorem decode_of_forall : ∀ {cs : List Char}, (∀ c ∈ cs, c ≠ '%') → decode cs = utf8 (String.ofList cs)
  | [], _ => by simp [decode, utf8_eq]
  | c :: cs, h => by
    rw [List.forall_mem_cons] at h
    have hc : ∀ a b r, c :: cs ≠ '%' :: a :: b :: r := by
      intro a b r hcs
      exact h.1 (List.head_eq_of_cons_eq hcs)
    rw [decode.eq_3 _ _ (by simpa using hc), decode_of_forall h.2]
    simp [charBytes, utf8_eq]

end Percent

namespace Host
variable {cs ascii : List Char} {host : Host} {a : Nat} {ps : List Nat}

/-- The bytes of a text spell it. -/
theorem spelled?_utf8 (s : String) : spelled? (utf8 s) = some s.toList := by
  have hbytes : (⟨(utf8 s).toArray⟩ : ByteArray) = s.toByteArray := rfl
  rw [spelled?, hbytes, String.fromUTF8?, dif_pos s.isValidUTF8]
  rfl

/-! ## What is read -/

/-- A host that can be read: its name is in ASCII form and no address, its address fits. -/
def Sound : Host → Prop
  | .name n => Idna.toAscii? n.toList = some n.toList ∧ n ≠ "" ∧ Ipv4.isMeant n.toList = false
  | .ipv4 a => a < 2 ^ 32
  | .ipv6 ps => Ipv6.Sound ps

theorem sound_of_bracketed? {r : Except UrlError (List Nat)} (hbracketed : bracketed? cs = some r)
    (h : r.map Host.ipv6 = .ok host) : host.Sound := by
  unfold bracketed? at hbracketed
  split at hbracketed
  · obtain rfl := Option.some.inj hbracketed
    split at h
    · split at h
      · rename_i ps hps
        obtain rfl := Except.ok.inj h
        exact Ipv6.sound_of_parse? hps
      · cases h
    · cases h
  · cases hbracketed

/-- A host that is read can be read. -/
theorem sound_of_parse (h : parse cs = .ok host) : host.Sound := by
  unfold parse at h
  split at h
  · rename_i r hbracketed
    exact sound_of_bracketed? hbracketed h
  · split at h
    · cases h
    · cases h
    · rename_i ascii hne hascii
      obtain ⟨spelled, -, hspelled⟩ := Option.bind_eq_some_iff.1 hascii
      split at h
      · split at h
        · rename_i a ha
          obtain rfl := Except.ok.inj h
          exact Ipv4.parse?_lt ha
        · cases h
      · rename_i hmeant
        obtain rfl := Except.ok.inj h
        refine ⟨?_, ?_, ?_⟩
        · rw [String.toList_ofList]
          exact Idna.toAscii?_toAscii? hspelled
        · intro hempty
          exact hne (by simpa using congrArg String.toList hempty)
        · rw [String.toList_ofList]
          simpa using hmeant

/-! ## What is written -/

/-- The characters of names and IPv4 addresses. -/
def IsAllowed (cs : List Char) : Prop := ∀ c ∈ cs, c.toNat < 128 ∧ Idna.isForbidden c = false

theorem isAllowed_of_toAscii? (h : Idna.toAscii? cs = some ascii) : IsAllowed ascii := by
  obtain ⟨labels, meant, hspells, rfl⟩ := Idna.spells_of_toAscii? h
  exact fun c hc => ⟨hspells.isAscii_joinWith c hc, hspells.isForbidden_joinWith c hc⟩

theorem isForbidden_of_isDigit {c : Char} (h : c.isDigit = true) : Idna.isForbidden c = false :=
  forall_ascii (P := fun c => c.isDigit = true → Idna.isForbidden c = false) (by decide) c (toNat_lt_of_isDigit h) h

/-- The text of an IPv4 address is a name in ASCII form. -/
theorem toAscii?_chars (a : Nat) : Idna.toAscii? (Ipv4.chars a) = some (Ipv4.chars a) := by
  have hascii (n : Nat) : Idna.isAscii (Nat.toDigits 10 n) = true :=
    Idna.isAscii_iff.2 fun c hc => toNat_lt_of_isDigit (Ipv4.isDigit_toDigits n c hc)
  have hlabel (n : Nat) : Idna.meaning? (Nat.toDigits 10 n) = some (Nat.toDigits 10 n) := by
    -- digits do not start with the mark of Punycode
    have hmark : ¬ Idna.mark.isPrefixOf (Nat.toDigits 10 n) = true := by
      intro hprefix
      have hx : 'x' ∈ Nat.toDigits 10 n := (List.isPrefixOf_iff_prefix.1 hprefix).subset List.mem_cons_self
      simpa using Ipv4.isDigit_toDigits n 'x' hx
    rw [Idna.meaning?, if_neg hmark, if_pos (hascii n)]
  have hspells : Idna.Spells ((Ipv4.bytes a).map (Nat.toDigits 10)) ((Ipv4.bytes a).map (Nat.toDigits 10)) := by
    constructor
    · simp [Ipv4.bytes]
    · simp [Ipv4.dot_not_mem_toDigits]
    · simp [hascii]
    · simp only [List.forall_mem_map]
      exact fun n _ c hc => isForbidden_of_isDigit (Ipv4.isDigit_toDigits n c hc)
    · simp [mapM_eq_some, hlabel]
    · simp [Ipv4.bytes, Idna.isRightToLeft_of_isAscii (hascii _)]
  rw [Ipv4.chars_eq]
  exact hspells.toAscii?_joinWith

theorem chars_ne_nil (a : Nat) : Ipv4.chars a ≠ [] := by
  intro hnil
  have hmeant := Ipv4.isMeant_chars a
  rw [hnil] at hmeant
  exact absurd hmeant (by decide)

/-- A text in ASCII form is read as an address if it is meant as one, and as a name otherwise. -/
theorem parse_of_toAscii? (h : Idna.toAscii? cs = some cs) : parse cs =
    if cs = [] then .error .emptyHost
    else if Ipv4.isMeant cs then
      match Ipv4.parse? cs with
      | some a => .ok (.ipv4 a)
      | none => .error .ipv4
    else .ok (.name (String.ofList cs)) := by
  have hplain := isAllowed_of_toAscii? h
  -- brackets and percent signs are forbidden, so the text is taken for a name as it stands
  have hbracketed : bracketed? cs = none := by
    cases cs with
    | nil => rfl
    | cons c r =>
      have hc : c ≠ '[' := by
        rintro rfl
        have := (hplain '[' List.mem_cons_self).2
        revert this
        decide
      rw [bracketed?]
      simpa using fun h => absurd h hc
  have hpercent : ∀ c ∈ cs, c ≠ '%' := by
    rintro c hc rfl
    have := (hplain '%' hc).2
    revert this
    decide
  rw [parse, hbracketed, Percent.decode_of_forall hpercent, spelled?_utf8, String.toList_ofList]
  simp only [Option.bind_some, h]
  cases cs with
  | nil => rfl
  | cons c r => exact (if_neg (List.cons_ne_nil c r)).symm

/-- **The text of a host is read as the host.** -/
theorem parse_text_of_sound (h : host.Sound) : parse host.text.toList = .ok host := by
  cases host with
  | name n =>
    obtain ⟨hascii, hne, hmeant⟩ := h
    rw [text, parse_of_toAscii? hascii, if_neg (by simpa using hne), hmeant]
    simp
  | ipv4 a =>
    rw [text, String.toList_ofList, parse_of_toAscii? (toAscii?_chars a), if_neg (chars_ne_nil a),
      if_pos (Ipv4.isMeant_chars a), Ipv4.parse?_chars h]
  | ipv6 ps =>
    rw [text, String.toList_ofList, Ipv6.chars_eq, parse, bracketed?]
    simp [Ipv6.parse?_body h, Except.map]

/-- How a host is written: in plain characters, or in digits and colons between brackets. -/
inductive Shape : List Char → Prop
  | plain {cs : List Char} (ne_nil : cs ≠ []) (plain : IsAllowed cs) : Shape cs
  | bracketed {body : List Char} (digits : ∀ c ∈ body, (Hex.digitValue? c).isSome = true ∨ c = ':') :
      Shape ('[' :: (body ++ [']']))

theorem Shape.ne_nil (h : Shape cs) : cs ≠ [] := by
  cases h with
  | plain hne _ => exact hne
  | bracketed _ => exact List.cons_ne_nil _ _

theorem shape_text (h : host.Sound) : Shape host.text.toList := by
  cases host with
  | name n => exact .plain (by simpa [text] using h.2.1) (isAllowed_of_toAscii? h.1)
  | ipv4 a =>
    rw [text, String.toList_ofList]
    exact .plain (chars_ne_nil a) (isAllowed_of_toAscii? (toAscii?_chars a))
  | ipv6 ps =>
    rw [text, String.toList_ofList, Ipv6.chars_eq]
    exact .bracketed (Ipv6.forall_mem_body ps)

end Host
end FederatedLedger
