import FederatedLedger.Proofs.ByteOrder
import FederatedLedger.Proofs.Ownership
import FederatedLedger.Proofs.Signature

/-!
# Which keys sign

An owner gets a signature by the first of the keys that owns the name. So nothing is signed without a key for each owner
of each input (`Transaction.owned_of_sign`). That such keys are enough (`Transaction.sign_isOk_iff`) takes a signer that
works (`Transaction.SignerWorks`): it does, unless a signature comes out degenerate. For a keypair and what it issues to
itself the signature is computed (`Keypair.exists_issuer`).
-/

namespace FederatedLedger
namespace Transaction
variable {t : Transaction} {keys : List Keypair}

/-- If there is no signature, then a key that was found did not sign, or none was found; for any way to sign. -/
theorem not_found_or_signed {sign : Keypair → Bytes → Option String} {p : Keypair → Bool} {bytes : Bytes}
    {missing failed e : LedgerError}
    (h : (match keys.find? p with
      | none => .error missing
      | some k => match sign k bytes with
        | none => .error failed
        | some signature => .ok signature) = Except.error (α := String) e) :
    (e = failed ∧ ∃ k ∈ keys, p k = true ∧ sign k bytes = none) ∨ (e = missing ∧ ∀ k ∈ keys, ¬ p k = true) := by
  split at h
  · rename_i hnone
    exact .inr ⟨(Except.error.inj h).symm, List.find?_eq_none.1 hnone⟩
  · rename_i k hk
    split at h
    · rename_i hs
      exact .inl ⟨(Except.error.inj h).symm, k, List.mem_of_find?_eq_some hk, List.find?_some hk, hs⟩
    · cases h

theorem signatureFor_error {payload owner : String} {e : LedgerError} (h : signatureFor keys payload owner = .error e) :
    (e = .signing ∧ ∃ k ∈ keys, k.owns owner = true ∧ k.sign? (utf8 payload) = none) ∨
      (e = .missingSigningKey owner ∧ ∀ k ∈ keys, ¬ k.owns owner = true) := by
  unfold signatureFor at h
  exact @not_found_or_signed keys Keypair.sign? (·.owns owner) (utf8 payload) (.missingSigningKey owner) .signing e h

theorem signatureFor_isOk_iff {payload owner : String}
    (hworks : ∀ k ∈ keys, k.owns owner = true → k.sign? (utf8 payload) ≠ none) :
    (∃ signature, signatureFor keys payload owner = .ok signature) ↔ ∃ k ∈ keys, k.owns owner = true := by
  constructor
  · rintro ⟨signature, h⟩
    obtain ⟨k, hk, howns, -⟩ := signatureFor_ok h
    exact ⟨k, hk, howns⟩
  · rintro ⟨k, hk, howns⟩
    cases h : signatureFor keys payload owner with
    | ok signature => exact ⟨signature, rfl⟩
    | error e =>
      rcases signatureFor_error h with ⟨-, l, hl, hlowns, hnone⟩ | ⟨-, hunowned⟩
      · exact absurd hnone (hworks l hl hlowns)
      · exact absurd howns (hunowned k hk)

theorem signaturesFor_isOk_iff {payload : String} : ∀ {owners : List String},
    (∃ signatures, signaturesFor keys payload owners = .ok signatures) ↔
      ∀ owner ∈ owners, ∃ signature, signatureFor keys payload owner = .ok signature
  | [] => ⟨fun _ => nofun, fun _ => ⟨[], rfl⟩⟩
  | owner :: owners => by
    rw [List.forall_mem_cons, ← signaturesFor_isOk_iff]
    simp only [signaturesFor_cons_eq_ok]
    constructor
    · rintro ⟨-, signature, rest, hs, hrest, -⟩
      exact ⟨⟨signature, hs⟩, rest, hrest⟩
    · rintro ⟨⟨signature, hs⟩, rest, hrest⟩
      exact ⟨_, signature, rest, hs, hrest, rfl⟩

theorem signedInputs_isOk_iff {message : String} : ∀ {inputs : List Input},
    (∃ signed, signedInputs keys message inputs = .ok signed) ↔
      ∀ i ∈ inputs, ∃ signatures, signaturesFor keys (payload message i) i.ownersBefore = .ok signatures
  | [] => ⟨fun _ => nofun, fun _ => ⟨[], rfl⟩⟩
  | i :: inputs => by
    rw [List.forall_mem_cons, ← signedInputs_isOk_iff]
    simp only [signedInputs_cons_eq_ok]
    constructor
    · rintro ⟨-, signatures, rest, hs, hrest, -⟩
      exact ⟨⟨signatures, hs⟩, rest, hrest⟩
    · rintro ⟨⟨signatures, hs⟩, rest, hrest⟩
      exact ⟨_, signatures, rest, hs, hrest, rfl⟩

theorem owned_of_signaturesFor {payload : String} {owners signatures : List String}
    (h : signaturesFor keys payload owners = .ok signatures) : ∀ owner ∈ owners, ∃ k ∈ keys, k.owns owner = true := by
  intro owner howner
  obtain ⟨signature, hs⟩ := signaturesFor_isOk_iff.1 ⟨signatures, h⟩ owner howner
  obtain ⟨k, hk, howns, -⟩ := signatureFor_ok hs
  exact ⟨k, hk, howns⟩

/-- Nothing is signed without a key for each owner of each input, whether or not the signer works. -/
theorem owned_of_sign {s : Transaction} (h : t.sign keys = .ok s) :
    ∀ i ∈ t.inputs, ∀ owner ∈ i.ownersBefore, ∃ k ∈ keys, k.owns owner = true := by
  intro i hi
  obtain ⟨-, signed, hsigned, -⟩ := sign_eq_ok.1 h
  obtain ⟨signatures, hs⟩ := signedInputs_isOk_iff.1 ⟨signed, hsigned⟩ i hi
  exact owned_of_signaturesFor hs

/-- Each key that is asked for a signature gives one. The signer does, but for signatures that come out degenerate. -/
def SignerWorks (keys : List Keypair) (t : Transaction) : Prop :=
  ∀ i ∈ t.inputs, ∀ owner ∈ i.ownersBefore, ∀ k ∈ keys, k.owns owner = true → k.sign? (t.signedBytes i) ≠ none

/-- If the signer works, a key for each owner of each input is enough. -/
theorem sign_isOk_iff (hkeys : keys ≠ []) (hworks : SignerWorks keys t) :
    (∃ s, t.sign keys = .ok s) ↔ ∀ i ∈ t.inputs, ∀ owner ∈ i.ownersBefore, ∃ k ∈ keys, k.owns owner = true := by
  refine ⟨fun ⟨s, hs⟩ => owned_of_sign hs, fun howned => ?_⟩
  obtain ⟨signed, hsigned⟩ := signedInputs_isOk_iff.2 fun i hi => signaturesFor_isOk_iff.2 fun owner howner =>
    (signatureFor_isOk_iff (hworks i hi owner howner)).2 (howned i hi owner howner)
  exact ⟨_, sign_eq_ok.2 ⟨hkeys, signed, hsigned, rfl⟩⟩

/-- Where an input has one owner, the transaction is signed with one signature of 130 digits. -/
theorem fulfillments_of_sign {s : Transaction} {i : Input} {owner : String} (h : t.sign keys = .ok s)
    (hi : t.inputs = [i]) (howner : i.ownersBefore = [owner]) :
    ∃ signature, signature.length = 130 ∧ s.inputs.map Input.fulfillment = [some signature] := by
  have hall := signatures_of_sign h
  rw [hi] at hall
  obtain ⟨j, rest, hj, hrest, hs⟩ := List.forall₂_cons_left_iff.1 hall
  obtain ⟨signatures, hjoin, hsigned⟩ := hj.signed
  rw [howner] at hsigned
  obtain ⟨signature, more, ⟨k, -, -, hk⟩, hmore, rfl⟩ := List.forall₂_cons_left_iff.1 hsigned
  cases hrest
  cases hmore
  exact ⟨signature, Keypair.length_of_sign? hk, by simp [hs, hjoin, String.join]⟩

/-! ## A signer that works -/

theorem signerWorks_of_digest {k : Keypair} {i : Input} {digest : Bytes} (hi : t.inputs = [i])
    (hdigest : Keccak.hash (t.signedBytes i) = digest) (hs : (Secp256k1.sign? k.secret digest).isSome = true) :
    SignerWorks [k] t := by
  rw [SignerWorks, hi]
  intro j hj owner _ l hl _
  obtain rfl := List.mem_singleton.1 hj
  obtain rfl := List.mem_singleton.1 hl
  rw [Keypair.sign?, hdigest]
  exact Option.isSome_iff_ne_none.1 (Option.isSome_map.trans hs)

/-- What an owner issues to itself: the prepared CREATE of something new. -/
def issuedTo (owner : String) : Transaction :=
  withId ⟨none, transactionVersion, .create, .data none, none, [⟨[owner], none, none⟩],
    [⟨[owner], toString (1 : UInt64).toNat, Condition.forKeys [owner]⟩]⟩

theorem prepare_issuedTo (owner : String) : (Draft.create [owner]).prepare = .ok (issuedTo owner) := rfl

end Transaction

namespace Keypair
open Transaction

/-- The keypair of the secret 1. -/
def one : Keypair := ⟨1, _, by decide, by decide, rfl⟩

theorem publicKey_one : one.publicKey = "0x7E5F4552091A69125d5DfCb7b8C2659029395Bdf" := by decide +kernel

theorem digest_issuedTo_one : Keccak.hash (utf8 (issuedTo one.publicKey).message) =
    Bytes.bigEndian 32 0x1febaf1d73291e85610ea0441dcf7b3feeeaf7019cea4368b06eb01d8e670234 := by
  rw [publicKey_one, message, Json.canonicalText, Json.text, utf8_eq, String.toList_ofList]
  decide +kernel

/-- A keypair that gets to sign what it issues to itself. -/
theorem exists_issuer : ∃ (k : Keypair) (t : Transaction), k.secret = 1 ∧ (Draft.create [k.publicKey]).prepare = .ok t ∧
    t.inputs = [⟨[k.publicKey], none, none⟩] ∧ t.SignerWorks [k] :=
  ⟨one, issuedTo one.publicKey, rfl, prepare_issuedTo _, rfl,
    signerWorks_of_digest rfl digest_issuedTo_one (by decide +kernel)⟩

end Keypair
end FederatedLedger
