import FederatedLedger.Proofs.Signer

/-!
# Ids and signing

A transaction is hashed three times with different parts left out: its id leaves out the old id and the signatures, so
does the message that is signed, and the id of a signed transaction leaves out the old id only. What the first two take
in is the body of the transaction (`unsigned_eq_iff`). Signing keeps the body, so it can be done again on its own
outcome, with the same outcome (`ids_of_body`).
-/

namespace FederatedLedger
namespace Transaction
variable {t u : Transaction} {keys : List Keypair}

/-- The two differ at most in their ids and in the signatures of their inputs. -/
structure SameBody (t u : Transaction) : Prop where
  version : t.version = u.version
  operation : t.operation = u.operation
  asset : t.asset = u.asset
  metadata : t.metadata = u.metadata
  inputs : t.inputs.map (fun i => (i.ownersBefore, i.fulfills)) = u.inputs.map (fun i => (i.ownersBefore, i.fulfills))
  outputs : t.outputs = u.outputs

/-- A transaction without id and signatures is its body. -/
theorem unsigned_eq_iff : t.unsigned = u.unsigned ↔ t.SameBody u := by
  -- what is left of an input is made of its owners and its link, and the other way round
  let clear (x : List String × Option OutputLink) : Input := ⟨x.1, x.2, none⟩
  have hclear : Function.Injective clear := fun _ _ h => Prod.ext (congrArg Input.ownersBefore h) (congrArg Input.fulfills h)
  have hinputs (w : Transaction) : w.unsigned.inputs = (w.inputs.map fun i => (i.ownersBefore, i.fulfills)).map clear := by
    rw [List.map_map]; rfl
  constructor
  · intro h
    obtain ⟨-, hversion, hoperation, hasset, hmetadata, hi, houtputs⟩ := Transaction.mk.inj h
    replace hi : t.unsigned.inputs = u.unsigned.inputs := hi
    rw [hinputs, hinputs] at hi
    exact ⟨hversion, hoperation, hasset, hmetadata, List.map_injective_iff.2 hclear hi, houtputs⟩
  · rintro ⟨hversion, hoperation, hasset, hmetadata, hi, houtputs⟩
    have hi : t.unsigned.inputs = u.unsigned.inputs := by rw [hinputs, hinputs, hi]
    simp only [unsigned] at hi ⊢
    rw [hversion, hoperation, hasset, hmetadata, hi, houtputs]

theorem SameBody.transactionId (h : t.SameBody u) : t.transactionId = u.transactionId :=
  congrArg (fun w => w.toJson.digest) (unsigned_eq_iff.2 h)

theorem SameBody.message (h : t.SameBody u) : t.message = u.message :=
  congrArg (fun w => w.toJson.canonicalText) (unsigned_eq_iff.2 h)

/-- What is signed for an input is decided by the message and the link of the input. -/
theorem SameBody.signedBytes (h : t.SameBody u) : t.inputs.map t.signedBytes = u.inputs.map u.signedBytes := by
  have hbytes (w : Transaction) : w.inputs.map w.signedBytes =
      (w.inputs.map fun i => (i.ownersBefore, i.fulfills)).map fun x => utf8 (payload w.message ⟨x.1, x.2, none⟩) := by
    rw [List.map_map]; rfl
  rw [hbytes, hbytes, h.inputs, h.message]

/-! ## Signing -/

/-- Old ids and signatures do not matter for the signer. -/
theorem SignerWorks.of_sameBody (hu : SignerWorks keys u) (h : t.SameBody u) : SignerWorks keys t := by
  intro i hi owner howner k hk howns
  have hmem := List.mem_map_of_mem (f := fun i => (i.ownersBefore, i.fulfills)) hi
  rw [h.inputs] at hmem
  obtain ⟨j, hj, hij⟩ := List.mem_map.1 hmem
  obtain ⟨howners, hlink⟩ := Prod.mk.inj hij
  have hbytes : t.signedBytes i = u.signedBytes j := by
    rw [signedBytes, signedBytes, h.message, payload, payload, hlink]
  rw [hbytes]
  exact hu j hj owner (howners ▸ howner) k hk howns

/-- Signing touches the signatures of the inputs only. -/
theorem links_of_signedInputs {message : String} : ∀ {inputs signed : List Input},
    signedInputs keys message inputs = .ok signed →
    signed.map (fun i => (i.ownersBefore, i.fulfills)) = inputs.map (fun i => (i.ownersBefore, i.fulfills))
  | [], _, h => by cases h; rfl
  | i :: inputs, _, h => by
    obtain ⟨signatures, rest, -, hrest, rfl⟩ := signedInputs_cons_eq_ok.1 h
    exact congrArg (List.cons (i.ownersBefore, i.fulfills)) (links_of_signedInputs hrest)

/-- Old signatures do not matter: signed inputs are signed as they were. -/
theorem signedInputs_signedInputs {message : String} : ∀ {inputs signed : List Input},
    signedInputs keys message inputs = .ok signed → signedInputs keys message signed = .ok signed
  | [], _, h => by cases h; rfl
  | i :: inputs, _, h => by
    obtain ⟨signatures, rest, hs, hrest, rfl⟩ := signedInputs_cons_eq_ok.1 h
    exact signedInputs_cons_eq_ok.2 ⟨signatures, rest, hs, signedInputs_signedInputs hrest, rfl⟩

theorem sameBody_of_sign {s : Transaction} (h : t.sign keys = .ok s) : s.SameBody t := by
  obtain ⟨-, inputs, hin, rfl⟩ := sign_eq_ok.1 h
  exact ⟨rfl, rfl, rfl, rfl, links_of_signedInputs hin, rfl⟩

theorem sign_of_sign {s : Transaction} (h : t.sign keys = .ok s) : s.sign keys = .ok s := by
  have hmessage : s.message = t.message := (sameBody_of_sign h).message
  obtain ⟨hkeys, inputs, hin, hs⟩ := sign_eq_ok.1 h
  have hinputs : s.inputs = inputs := congrArg Transaction.inputs hs
  refine sign_eq_ok.2 ⟨hkeys, inputs, ?_, ?_⟩
  · rw [hmessage, hinputs]
    exact signedInputs_signedInputs hin
  · rw [← hinputs, hs]
    rfl

end Transaction

/-! ## Preparing -/

namespace Draft

/-- What preparing does last: it makes outputs for some recipients, and puts in the id. -/
theorem prepare_ok {d : Draft} {p : Transaction} (h : d.prepare = .ok p) :
    ∃ (body : Transaction) (recipients : List Recipient), outputs 0 recipients = .ok body.outputs ∧ p = body.withId := by
  unfold prepare at h
  split at h
  · unfold prepareCreate at h
    split at h
    · cases h
    · split at h
      · cases h
      · obtain ⟨os, hos, hp⟩ := map_eq_ok.1 h
        exact ⟨_, _, hos, hp⟩
  · unfold prepareTransfer at h
    split at h
    · cases h
    · split at h
      · cases h
      · split at h
        · obtain ⟨is, os, -, hos, hp⟩ := map₂_eq_ok.1 h
          exact ⟨_, _, hos, hp⟩
        · cases h

/-- A prepared transaction is named by its own id. -/
theorem id_of_prepare {d : Draft} {p : Transaction} (h : d.prepare = .ok p) : p.id = some p.transactionId := by
  obtain ⟨body, -, -, rfl⟩ := prepare_ok h
  rfl

end Draft

namespace Transaction

/-- **Ids and signing.** A signed transaction has the body of the one that was signed, so its id without signatures is
the same; it is named by the digest of all but that name; and signing it once more changes nothing. A prepared
transaction is named by its id, and the id and the signed bytes are decided by the body. -/
theorem ids_of_body :
    (∀ (t s : Transaction) (keys : List Keypair), t.sign keys = .ok s →
      s.SameBody t ∧ s.transactionId = t.transactionId ∧
      s.id = some (Hex.ofBytes (Keccak.hash (utf8 { s with id := none }.toJson.canonicalText))) ∧
      s.sign keys = .ok s) ∧
    (∀ (d : Draft) (p : Transaction), d.prepare = .ok p → p.id = some p.transactionId) ∧
    (∀ t u : Transaction, t.SameBody u →
      t.transactionId = u.transactionId ∧ t.inputs.map t.signedBytes = u.inputs.map u.signedBytes) := by
  refine ⟨fun t s keys h => ⟨sameBody_of_sign h, (sameBody_of_sign h).transactionId, ?_, sign_of_sign h⟩,
    fun d p => Draft.id_of_prepare, fun t u h => ⟨h.transactionId, h.signedBytes⟩⟩
  obtain ⟨-, inputs, -, rfl⟩ := sign_eq_ok.1 h
  rfl

/-- A transaction that is read with an old id and an old signature. Its owner signs it, over what was prepared. -/
theorem ids_of_body_stale : ∃ (t s p : Transaction) (d : Draft) (keys : List Keypair),
    t.sign keys = .ok s ∧ t.id = some "f00d" ∧ s.id ≠ none ∧ s.inputs ≠ t.inputs ∧ d.prepare = .ok p ∧
    (s.transactionId = t.transactionId ∧ s.sign keys = .ok s) ∧ p.id = some p.transactionId ∧
    t.unsigned.transactionId = t.transactionId ∧ t.transactionId = p.transactionId ∧
    t.inputs.map Input.fulfillment = [some "5167"] ∧
    ∃ signature, signature.length = 130 ∧ s.inputs.map Input.fulfillment = [some signature] := by
  obtain ⟨k, p, -, hp, hpi, hworks⟩ := Keypair.exists_issuer
  let i : Input := ⟨[k.publicKey], none, some "5167"⟩
  let t : Transaction := { p with id := some "f00d", inputs := [i] }
  have hbody : t.SameBody p := ⟨rfl, rfl, rfl, rfl, by rw [hpi]; rfl, rfl⟩
  obtain ⟨s, hs⟩ := (sign_isOk_iff (List.cons_ne_nil k []) (hworks.of_sameBody hbody)).2
    (List.forall_mem_singleton.2 (List.forall_mem_singleton.2 ⟨k, List.mem_singleton.2 rfl, k.owns_publicKey⟩))
  obtain ⟨signature, hlength, hsigned⟩ := fulfillments_of_sign hs rfl rfl
  obtain ⟨hresigned, hprepared, hsame⟩ := ids_of_body
  obtain ⟨-, hid, hname, hagain⟩ := hresigned t s [k] hs
  refine ⟨t, s, p, _, [k], hs, rfl, by simp [hname], ?_, hp, ⟨hid, hagain⟩, hprepared _ p hp,
    (hsame t.unsigned t ⟨rfl, rfl, rfl, rfl, rfl, rfl⟩).1, (hsame t p hbody).1, rfl, signature, hlength, hsigned⟩
  intro hinputs
  rw [hinputs] at hsigned
  obtain rfl := Option.some.inj (List.cons.inj hsigned).1
  exact absurd hlength (by decide)

end Transaction
end FederatedLedger
