import FederatedLedger.Ledger.Sign
import FederatedLedger.Proofs.LedgerForms
import Mathlib.Data.List.Forall2

/-!
# What a signature covers

The signatures of a signed transaction are made over `Transaction.signedBytes`, one for each owner of an input
(`signatures_of_sign`): the message, which is the canonical text of the transaction without its id and its signatures,
followed by the output that the input spends. As the message is the text of an object, the bytes tell where it ends,
and so what it says.
-/

namespace FederatedLedger

/-- A computation that goes on with a result succeeds if there is one. -/
theorem map_eq_ok {ε α β : Type} {x : Except ε α} {f : α → β} {b : β} :
    (do let a ← x; return f a) = .ok b ↔ ∃ a, x = .ok a ∧ b = f a := by
  cases x with
  | error e => exact ⟨nofun, nofun⟩
  | ok a => exact ⟨fun h => ⟨a, rfl, (Except.ok.inj h).symm⟩, fun ⟨_, ha, h⟩ => Except.ok.inj ha ▸ congrArg Except.ok h.symm⟩

/-- A computation of two parts succeeds if both do. -/
theorem map₂_eq_ok {ε α β γ : Type} {x : Except ε α} {y : Except ε β} {f : α → β → γ} {c : γ} :
    (do let a ← x; let b ← y; return f a b) = .ok c ↔ ∃ a b, x = .ok a ∧ y = .ok b ∧ c = f a b := by
  cases x with
  | error e => exact ⟨nofun, nofun⟩
  | ok a =>
    refine map_eq_ok.trans ⟨fun ⟨b, hb, h⟩ => ⟨a, b, rfl, hb, h⟩, ?_⟩
    rintro ⟨_, b, ha, hb, h⟩
    obtain rfl := Except.ok.inj ha
    exact ⟨b, hb, h⟩

/-- A computation that goes on with a result fails like its first part. -/
theorem map_eq_error {ε α β : Type} {x : Except ε α} {f : α → β} {e : ε} :
    (do let a ← x; return f a) = .error e ↔ x = .error e := by
  cases x <;> simp [bind, Except.bind, pure, Except.pure]

/-- A computation of two parts fails like its first part, or else like its second. -/
theorem map₂_eq_error {ε α β γ : Type} {x : Except ε α} {y : Except ε β} {f : α → β → γ} {e : ε} :
    (do let a ← x; let b ← y; return f a b) = .error e ↔ x = .error e ∨ (∃ a, x = .ok a) ∧ y = .error e := by
  cases x with
  | error e' => simp [bind, Except.bind]
  | ok a => cases y <;> simp [bind, Except.bind, pure, Except.pure]

namespace Transaction
variable {t u : Transaction}

/-- The bytes that the signatures for an input cover. -/
def signedBytes (t : Transaction) (i : Input) : Bytes := utf8 (payload t.message i)

/-- Each owner's signature over the bytes, made with a key that owns the owner's name. -/
def Signatures (keys : List Keypair) (bytes : Bytes) : List String → List String → Prop :=
  List.Forall₂ fun owner signature => ∃ k ∈ keys, k.owns owner = true ∧ k.sign? bytes = some signature

/-- The signature is by a key that was found. This is for any way to sign, lest Lean evaluate the hashes of the real
one. -/
theorem sign_of_found {sign : Keypair → Bytes → Option String} {keys : List Keypair} {p : Keypair → Bool} {bytes : Bytes}
    {missing failed : LedgerError} {signature : String}
    (h : (match keys.find? p with
      | none => .error missing
      | some k => match sign k bytes with
        | none => .error failed
        | some signature => .ok signature) = Except.ok signature) :
    ∃ k ∈ keys, p k = true ∧ sign k bytes = some signature := by
  split at h
  · cases h
  · rename_i k hk
    split at h
    · cases h
    · rename_i hs
      obtain rfl := Except.ok.inj h
      exact ⟨k, List.mem_of_find?_eq_some hk, List.find?_some hk, hs⟩

theorem signatureFor_ok {keys : List Keypair} {payload owner signature : String}
    (h : signatureFor keys payload owner = .ok signature) :
    ∃ k ∈ keys, k.owns owner = true ∧ k.sign? (utf8 payload) = some signature := by
  unfold signatureFor at h
  exact @sign_of_found Keypair.sign? keys (·.owns owner) (utf8 payload) (.missingSigningKey owner) .signing signature h

theorem signaturesFor_cons_eq_ok {keys : List Keypair} {payload owner : String} {owners signatures : List String} :
    signaturesFor keys payload (owner :: owners) = .ok signatures ↔ ∃ signature rest,
      signatureFor keys payload owner = .ok signature ∧ signaturesFor keys payload owners = .ok rest ∧
      signatures = signature :: rest :=
  map₂_eq_ok

theorem signatures_of_signaturesFor {keys : List Keypair} {payload : String} : ∀ {owners signatures : List String},
    signaturesFor keys payload owners = .ok signatures → Signatures keys (utf8 payload) owners signatures
  | [], _, h => by cases h; exact .nil
  | owner :: owners, _, h => by
    obtain ⟨signature, rest, hs, hrest, rfl⟩ := signaturesFor_cons_eq_ok.1 h
    exact .cons (signatureFor_ok hs) (signatures_of_signaturesFor hrest)

/-- The input `j` is `i` with signatures over the bytes that are to be signed for `i`. -/
structure SignedInput (keys : List Keypair) (t : Transaction) (i j : Input) : Prop where
  same : { j with fulfillment := none } = { i with fulfillment := none }
  signed : ∃ signatures, j.fulfillment = some (String.join signatures) ∧
    Signatures keys (t.signedBytes i) i.ownersBefore signatures

theorem signedInputs_cons_eq_ok {keys : List Keypair} {message : String} {i : Input} {inputs signed : List Input} :
    signedInputs keys message (i :: inputs) = .ok signed ↔ ∃ signatures rest,
      signaturesFor keys (payload message i) i.ownersBefore = .ok signatures ∧
      signedInputs keys message inputs = .ok rest ∧
      signed = { i with fulfillment := some (String.join signatures) } :: rest :=
  map₂_eq_ok

theorem signedInputs_ok {keys : List Keypair} : ∀ {inputs signed : List Input},
    signedInputs keys t.message inputs = .ok signed → List.Forall₂ (SignedInput keys t) inputs signed
  | [], _, h => by cases h; exact .nil
  | i :: inputs, _, h => by
    obtain ⟨signatures, rest, hs, hrest, rfl⟩ := signedInputs_cons_eq_ok.1 h
    exact .cons ⟨rfl, signatures, rfl, signatures_of_signaturesFor hs⟩ (signedInputs_ok hrest)

/-- What signing does: it needs a key, signs the inputs, and names the outcome by its digest. -/
theorem sign_eq_ok {keys : List Keypair} {s : Transaction} : t.sign keys = .ok s ↔
    keys ≠ [] ∧ ∃ inputs, signedInputs keys t.message t.inputs = .ok inputs ∧ s = withSignedId { t with inputs } := by
  cases keys with
  | nil => exact ⟨nofun, fun h => absurd rfl h.1⟩
  | cons k ks => exact map_eq_ok.trans ⟨fun h => ⟨nofun, h⟩, fun h => h.2⟩

/-- A signed transaction holds, for each input, the signatures of its owners over the bytes for that input. -/
theorem signatures_of_sign {keys : List Keypair} {s : Transaction} (h : t.sign keys = .ok s) :
    List.Forall₂ (SignedInput keys t) t.inputs s.inputs := by
  obtain ⟨-, inputs, hin, rfl⟩ := sign_eq_ok.1 h
  exact signedInputs_ok hin

/-! ## Equal bytes -/

/-- What is signed for an input begins with the message. -/
theorem toList_payload (message : String) (i : Input) : ∃ rest, (payload message i).toList = message.toList ++ rest := by
  unfold payload
  split
  · exact ⟨[], by simp⟩
  · rename_i link _
    exact ⟨link.transactionId.toList ++ (toString link.outputIndex.toNat).toList, by simp⟩

/-- **A signature binds the transaction.** If the bytes that are signed for an input of one transaction are those that
are signed for an input of another, then the two have one message, and agree on all but their ids and signatures. -/
theorem signedBytes_bind (ht : t.isProper = true) (hu : u.isProper = true) (i j : Input)
    (h : t.signedBytes i = u.signedBytes j) : t.message = u.message ∧ t.SameContent u := by
  obtain ⟨r, hr⟩ := toList_payload t.message i
  obtain ⟨s, hs⟩ := toList_payload u.message j
  have hchars : t.unsigned.toJson.sorted.chars ++ r = u.unsigned.toJson.sorted.chars ++ s := by
    have htext := congrArg String.toList (utf8_injective h)
    rwa [hr, hs, message, message, Json.canonicalText, Json.canonicalText, Json.text, Json.text,
      String.toList_ofList, String.toList_ofList] at htext
  -- the message is the text of an object, so what follows it does not matter
  have hsorted : t.unsigned.toJson.sorted = u.unsigned.toJson.sorted := by
    have htf := Json.isFinite_sorted (isFinite_toJson (t := t.unsigned) ht)
    have huf := Json.isFinite_sorted (isFinite_toJson (t := u.unsigned) hu)
    exact congrArg Json.object (Json.object_append_inj htf huf hchars).1
  exact ⟨by rw [message, message, Json.canonicalText, Json.canonicalText, hsorted], sameContent_of_sorted_eq ht hu hsorted⟩

/-- A signed transaction and one without id, signature and metadata, whose asset names its members in another order. -/
theorem signedBytes_bind_spelled : ∃ (t u : Transaction) (i j : Input), i ∈ t.inputs ∧ j ∈ u.inputs ∧ t.id ≠ u.id ∧
    i.fulfillment ≠ j.fulfillment ∧ t.signedBytes i = u.signedBytes j ∧ t.message = u.message ∧ t.SameContent u := by
  let half : Json := .number (.float ⟨0x3FE0000000000000⟩)
  let link : OutputLink := ⟨"c0ffee", 1⟩
  let i : Input := ⟨["0xA"], some link, some "5167"⟩
  let j : Input := ⟨["0xA"], some link, none⟩
  let output : Output := ⟨["0xB"], "1", ⟨⟨"ecdsa-secp256k1", some "0xB", none, []⟩, "ni:///x"⟩⟩
  let t : Transaction := ⟨some "f00d", "2.0", .create, .data (some (.object [("a", half), ("b", .null)])), some .null, [i],
    [output]⟩
  let u : Transaction := ⟨none, "2.0", .create, .data (some (.object [("b", .null), ("a", half)])), none, [j], [output]⟩
  have hchars : t.unsigned.toJson.sorted.chars = u.unsigned.toJson.sorted.chars := by decide +kernel
  have hmessage : t.message = u.message := congrArg String.ofList hchars
  have hbytes : t.signedBytes i = u.signedBytes j := by
    rw [signedBytes, signedBytes, hmessage]; rfl
  obtain ⟨-, hsame⟩ := signedBytes_bind (t := t) (u := u) (by decide +kernel) (by decide +kernel) i j hbytes
  exact ⟨t, u, i, j, List.mem_singleton.2 rfl, List.mem_singleton.2 rfl, nofun, nofun, hbytes, hmessage, hsame⟩

end Transaction
end FederatedLedger
