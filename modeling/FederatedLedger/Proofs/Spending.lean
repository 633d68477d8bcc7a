import FederatedLedger.Proofs.Identity

/-!
# Chains of transfers

An issued transaction is a prepared one, or one that was signed after that. Each is `Ready`: it has an id, and each of
its outputs has an owner (`Issued.ready`). So its outputs, and no others, can be spent, and a TRANSFER that spends any of
them for proper recipients can be prepared, and is issued in its turn. It can be signed by those who hold the keys of the
outputs that it spends, and by nobody else (`Issued.transfers`).
-/

namespace FederatedLedger

/-! ## Preparing -/

/-- The output for a recipient. -/
def Recipient.output (r : Recipient) : Output := ⟨r.publicKeys, toString r.amount.toNat, Condition.forKeys r.publicKeys⟩

/-- Whether an output can be made for the recipient: there is something to receive, and somebody who does. -/
def Recipient.IsProper (r : Recipient) : Prop := 0 < r.amount ∧ r.publicKeys ≠ []

namespace Draft

theorem outputs_eq_ok : ∀ {i : Nat} {rs : List Recipient} {os : List Output},
    outputs i rs = .ok os ↔ (∀ r ∈ rs, r.IsProper) ∧ os = rs.map Recipient.output
  | _, [], os => ⟨fun h => by cases h; exact ⟨nofun, rfl⟩, fun h => h.2 ▸ rfl⟩
  | i, r :: rs, os => by
    rw [outputs, List.forall_mem_cons, Recipient.IsProper, UInt64.pos_iff_ne_zero]
    by_cases hamount : r.amount = 0
    · simp [hamount]
    · by_cases hkeys : r.publicKeys = []
      · simp [hamount, hkeys]
      · rw [if_neg hamount, if_neg hkeys]
        refine map_eq_ok.trans ?_
        constructor
        · rintro ⟨rest, hrest, rfl⟩
          obtain ⟨hproper, rfl⟩ := outputs_eq_ok.1 hrest
          exact ⟨⟨⟨hamount, hkeys⟩, hproper⟩, rfl⟩
        · rintro ⟨⟨-, hproper⟩, rfl⟩
          exact ⟨_, outputs_eq_ok.2 ⟨hproper, rfl⟩, rfl⟩

/-- Inputs that link to an output and have an owner are taken as they are, but for their signatures. -/
theorem spent_of_linked : ∀ {n : Nat} {inputs : List Input}, (∀ i ∈ inputs, i.fulfills ≠ none ∧ i.ownersBefore ≠ []) →
    spent n inputs = .ok (inputs.map fun i => { i with fulfillment := none })
  | _, [], _ => rfl
  | n, i :: inputs, h => by
    obtain ⟨⟨hlink, howners⟩, hrest⟩ := List.forall_mem_cons.1 h
    rw [spent, if_neg (by simp [hlink, howners])]
    exact map_eq_ok.2 ⟨_, spent_of_linked hrest, rfl⟩

/-- The transfer of an asset that spends owned outputs for proper recipients. -/
theorem prepare_of_linked {d : Draft} {assetId : String} (hoperation : d.operation = .transfer)
    (hasset : d.asset = some (.link assetId)) (hinputs : d.inputs ≠ [])
    (hlinked : ∀ i ∈ d.inputs, i.fulfills ≠ none ∧ i.ownersBefore ≠ [])
    (hrecipients : d.recipients ≠ []) (hproper : ∀ r ∈ d.recipients, r.IsProper) :
    d.prepare = .ok (Transaction.withId ⟨none, transactionVersion, .transfer, .link assetId, d.metadata,
      d.inputs.map fun i => { i with fulfillment := none }, d.recipients.map Recipient.output⟩) := by
  rw [prepare, hoperation]
  show prepareTransfer d = _
  rw [prepareTransfer, if_neg hinputs, if_neg hrecipients, hasset]
  exact map₂_eq_ok.2 ⟨_, _, spent_of_linked hlinked, outputs_eq_ok.2 ⟨hproper, rfl⟩, rfl⟩

end Draft

namespace Transaction
variable {t : Transaction} {keys : List Keypair}

/-! ## Issued transactions -/

/-- Transactions that were prepared, and those that were signed after that, any number of times. -/
inductive Issued : Transaction → Prop
  | prepared {d : Draft} {p : Transaction} (h : d.prepare = .ok p) : Issued p
  | signed {t s : Transaction} {keys : List Keypair} (ht : Issued t) (h : t.sign keys = .ok s) : Issued s

/-- The transaction has an id, and each of its outputs has an owner. -/
structure Ready (t : Transaction) : Prop where
  named : ∃ id, t.id = some id
  owned : ∀ o ∈ t.outputs, o.publicKeys ≠ []

theorem ready_of_prepare {d : Draft} {p : Transaction} (h : d.prepare = .ok p) : p.Ready := by
  obtain ⟨body, recipients, houtputs, rfl⟩ := Draft.prepare_ok h
  obtain ⟨hproper, hos⟩ := Draft.outputs_eq_ok.1 houtputs
  refine ⟨⟨_, rfl⟩, ?_⟩
  show ∀ o ∈ body.outputs, o.publicKeys ≠ []
  rw [hos]
  exact List.forall_mem_map.2 fun r hr => (hproper r hr).2

theorem Ready.sign {s : Transaction} (ht : t.Ready) (h : t.sign keys = .ok s) : s.Ready := by
  obtain ⟨-, inputs, -, rfl⟩ := sign_eq_ok.1 h
  exact ⟨⟨_, rfl⟩, ht.owned⟩

theorem Issued.ready (h : t.Issued) : t.Ready := by
  induction h with
  | prepared h => exact ready_of_prepare h
  | signed _ h ih => exact ih.sign h

/-! ## Spending -/

theorem spendOutput_of_some {id : String} {index : UInt32} {o : Output} (hid : t.id = some id)
    (ho : t.outputs[index.toNat]? = some o) : t.spendOutput index = .ok ⟨o.publicKeys, some ⟨id, index⟩, none⟩ := by
  rw [spendOutput, hid, ho]

theorem spendOutput_of_none {index : UInt32} (ho : t.outputs[index.toNat]? = none) :
    t.spendOutput index = .error (.invalidInput index.toNat) := by
  rw [spendOutput, ho]
  cases t.id <;> rfl

/-- The input spends an output of an issued transaction. -/
def Spends (x : Transaction × UInt32) (input : Input) : Prop := x.1.Issued ∧ x.1.spendOutput x.2 = .ok input

/-- An input that spends an output links to it, has its owners, and is not signed. -/
theorem Spends.owners {x : Transaction × UInt32} {input : Input} (h : Spends x input) :
    ∃ o link, x.1.outputs[x.2.toNat]? = some o ∧ o.publicKeys ≠ [] ∧ input = ⟨o.publicKeys, some link, none⟩ := by
  obtain ⟨hissued, hspend⟩ := h
  obtain ⟨⟨id, hid⟩, howned⟩ := hissued.ready
  cases ho : x.1.outputs[x.2.toNat]? with
  | none => rw [spendOutput_of_none ho] at hspend; cases hspend
  | some o =>
    rw [spendOutput_of_some hid ho] at hspend
    exact ⟨o, _, rfl, howned o (List.mem_of_getElem? ho), (Except.ok.inj hspend).symm⟩

variable {spends : List (Transaction × UInt32)} {inputs : List Input}

theorem linked_of_spends (h : List.Forall₂ Spends spends inputs) :
    ∀ i ∈ inputs, i.fulfills ≠ none ∧ i.ownersBefore ≠ [] ∧ { i with fulfillment := none } = i := by
  induction h with
  | nil => exact nofun
  | cons hx _ ih =>
    obtain ⟨o, link, -, howned, rfl⟩ := hx.owners
    exact List.forall_mem_cons.2 ⟨⟨nofun, howned, rfl⟩, ih⟩

/-- Who owns the inputs is who owns the outputs that they spend. -/
theorem owners_of_spends (h : List.Forall₂ Spends spends inputs) {P : String → Prop} :
    (∀ i ∈ inputs, ∀ owner ∈ i.ownersBefore, P owner) ↔
      ∀ x ∈ spends, ∀ o, x.1.outputs[x.2.toNat]? = some o → ∀ owner ∈ o.publicKeys, P owner := by
  induction h with
  | nil => exact ⟨fun _ => nofun, fun _ => nofun⟩
  | cons hx _ ih =>
    obtain ⟨o, link, ho, -, rfl⟩ := hx.owners
    rw [List.forall_mem_cons, List.forall_mem_cons, ih, ho]
    refine and_congr_left fun _ => ⟨fun h o' ho' => ?_, fun h => h o rfl⟩
    obtain rfl := Option.some.inj ho'
    exact h

/-- What spends outputs of issued transactions can be prepared as it is, and signed with the keys of those outputs. -/
theorem transfer_of_spends (h : List.Forall₂ Spends spends inputs) (hinputs : inputs ≠ []) (assetId : String)
    {recipients : List Recipient} (hrecipients : recipients ≠ []) (hproper : ∀ r ∈ recipients, r.IsProper) :
    ∃ p, (Draft.transfer inputs assetId recipients).prepare = .ok p ∧ p.inputs = inputs ∧ p.Issued ∧
      (∀ keys s, p.sign keys = .ok s →
        ∀ x ∈ spends, ∀ o, x.1.outputs[x.2.toNat]? = some o → ∀ owner ∈ o.publicKeys,
          ∃ k ∈ keys, k.owns owner = true) ∧
      ∀ keys ≠ [], SignerWorks keys p → ((∃ s, p.sign keys = .ok s) ↔
        ∀ x ∈ spends, ∀ o, x.1.outputs[x.2.toNat]? = some o → ∀ owner ∈ o.publicKeys,
          ∃ k ∈ keys, k.owns owner = true) := by
  have hlinked := linked_of_spends h
  have hp := Draft.prepare_of_linked (d := .transfer inputs assetId recipients) rfl rfl hinputs
    (fun i hi => ⟨(hlinked i hi).1, (hlinked i hi).2.1⟩) hrecipients hproper
  have hkept : (inputs.map fun i => { i with fulfillment := none }) = inputs :=
    (List.map_congr_left fun i hi => (hlinked i hi).2.2).trans (List.map_id _)
  refine ⟨_, hp, hkept, .prepared hp, fun keys s hs => ?_, fun keys hkeys hworks => ?_⟩
  · rw [← owners_of_spends h, ← hkept]
    exact owned_of_sign hs
  · rw [sign_isOk_iff hkeys hworks, ← owners_of_spends h]
    show (∀ i ∈ (inputs.map fun i => { i with fulfillment := none }), _) ↔ _
    rw [hkept]

end Transaction

/-! ## A first transfer -/

namespace Keypair
open Transaction

/-- The prepared transfer to `y` of what the owner issued to itself in a transaction. -/
def movedOn (owner id : String) : Transaction :=
  withId ⟨none, transactionVersion, .transfer, .link "a55e7", none, [⟨[owner], some ⟨id, 0⟩, none⟩],
    [Recipient.output ⟨["y"], 2⟩]⟩

theorem prepare_movedOn (owner id : String) :
    (Draft.transfer [⟨[owner], some ⟨id, 0⟩, none⟩] "a55e7" [⟨["y"], 2⟩]).prepare = .ok (movedOn owner id) :=
  Draft.prepare_of_linked rfl rfl nofun (by simp [Draft.transfer]) nofun (by simp [Draft.transfer, Recipient.IsProper])

theorem transactionId_issuedTo_one : (issuedTo one.publicKey).transactionId =
    "1febaf1d73291e85610ea0441dcf7b3feeeaf7019cea4368b06eb01d8e670234" :=
  (congrArg Hex.ofBytes digest_issuedTo_one).trans (by decide +kernel)

theorem digest_movedOn_one : Keccak.hash ((movedOn one.publicKey (issuedTo one.publicKey).transactionId).signedBytes
      ⟨[one.publicKey], some ⟨(issuedTo one.publicKey).transactionId, 0⟩, none⟩) =
    Bytes.bigEndian 32 0x0287f8079581ebd36bd286976347448b4234054cede9e578ddd31abd691ccb34 := by
  rw [transactionId_issuedTo_one, publicKey_one, signedBytes, payload, message, Json.canonicalText, Json.text, utf8_eq,
    String.toList_append, String.toList_append, String.toList_ofList]
  decide +kernel

/-- A keypair that gets to sign the transfer of what it issued to itself. -/
theorem exists_mover : ∃ (k : Keypair) (t : Transaction) (i : Input) (p : Transaction), k.secret = 1 ∧
    (Draft.create [k.publicKey]).prepare = .ok t ∧ t.spendOutput 0 = .ok i ∧
    (Draft.transfer [i] "a55e7" [⟨["y"], 2⟩]).prepare = .ok p ∧ p.SignerWorks [k] :=
  ⟨one, issuedTo one.publicKey, _, movedOn one.publicKey _, rfl, prepare_issuedTo _, spendOutput_of_some rfl rfl,
    prepare_movedOn _ _, signerWorks_of_digest rfl digest_movedOn_one (by decide +kernel)⟩

end Keypair

namespace Transaction

/-! ## Chains -/

/-- **Chains of transfers.** The outputs of an issued transaction, and nothing else, can be spent, each by an input that
carries the id of the transaction, the number of the output and its owners. Such inputs make a TRANSFER that keeps them
and is issued in its turn. It is signed by no fewer than the keys of the spent outputs, and by those if the signer
works. -/
theorem Issued.transfers :
    (∀ t : Transaction, t.Issued → ∃ id, t.id = some id ∧ ∀ index : UInt32,
      ((∃ input, t.spendOutput index = .ok input) ↔ index.toNat < t.outputs.length) ∧
      (∀ o, t.outputs[index.toNat]? = some o → t.spendOutput index = .ok ⟨o.publicKeys, some ⟨id, index⟩, none⟩) ∧
      (¬ index.toNat < t.outputs.length → t.spendOutput index = .error (.invalidInput index.toNat))) ∧
    (∀ (spends : List (Transaction × UInt32)) (inputs : List Input) (assetId : String) (recipients : List Recipient),
      List.Forall₂ Spends spends inputs → inputs ≠ [] → recipients ≠ [] → (∀ r ∈ recipients, r.IsProper) →
      ∃ p, (Draft.transfer inputs assetId recipients).prepare = .ok p ∧ p.inputs = inputs ∧ p.Issued ∧
        (∀ keys s, p.sign keys = .ok s →
          ∀ x ∈ spends, ∀ o, x.1.outputs[x.2.toNat]? = some o → ∀ owner ∈ o.publicKeys,
            ∃ k ∈ keys, k.owns owner = true) ∧
        ∀ keys ≠ [], SignerWorks keys p → ((∃ s, p.sign keys = .ok s) ↔
          ∀ x ∈ spends, ∀ o, x.1.outputs[x.2.toNat]? = some o → ∀ owner ∈ o.publicKeys,
            ∃ k ∈ keys, k.owns owner = true)) := by
  refine ⟨fun t ht => ?_, fun spends inputs assetId recipients h hinputs hrecipients hproper =>
    transfer_of_spends h hinputs assetId hrecipients hproper⟩
  obtain ⟨id, hid⟩ := ht.ready.named
  refine ⟨id, hid, fun index => ⟨⟨?_, fun h => ?_⟩, fun o ho => spendOutput_of_some hid ho,
    fun h => spendOutput_of_none (List.getElem?_eq_none (Nat.le_of_not_lt h))⟩⟩
  · rintro ⟨input, h⟩
    obtain ⟨o, -, ho, -⟩ := Spends.owners (x := (t, index)) ⟨ht, h⟩
    exact (List.getElem?_eq_some_iff.1 ho).1
  · exact ⟨_, spendOutput_of_some hid (List.getElem?_eq_getElem h)⟩

/-- An asset is issued to a key and moved on to an owner whose name no key has, who is to move it on. The key signs the
first transfer, and cannot sign the second. -/
theorem Issued.transfers_twice : ∃ (t p q : Transaction) (i j : Input) (k : Keypair), k.secret = 1 ∧
    t.spendOutput 0 = .ok i ∧ t.spendOutput 1 = .error (.invalidInput 1) ∧
    (Draft.transfer [i] "a55e7" [⟨["y"], 2⟩]).prepare = .ok p ∧ p.inputs = [i] ∧
    (∃ s, p.sign [k] = .ok s) ∧
    p.spendOutput 0 = .ok j ∧ (Draft.transfer [j] "a55e7" [⟨["x", "y"], 1⟩]).prepare = .ok q ∧ q.inputs = [j] ∧
    ¬ ∃ s, q.sign [k] = .ok s := by
  obtain ⟨k, t, i, p, hsecret, ht, hi, hp, hworks⟩ := Keypair.exists_mover
  obtain ⟨houtputs, htransfer⟩ := Issued.transfers
  have hto : t.outputs = [Recipient.output ⟨[k.publicKey], 1⟩] := by cases ht; rfl
  obtain ⟨id, -, hspend⟩ := houtputs t (.prepared ht)
  have hi₀ := (hspend 0).2.1 (Recipient.output ⟨[k.publicKey], 1⟩) (by rw [hto]; rfl)
  obtain rfl : _ = i := Except.ok.inj (hi₀.symm.trans hi)
  have hi' := (hspend 1).2.2 (by rw [hto]; exact Nat.lt_irrefl 1)
  obtain ⟨p', hp', hpi, hpissued, -, hpsign⟩ := htransfer [(t, 0)] _ "a55e7" [⟨["y"], 2⟩]
    (.cons ⟨.prepared ht, hi⟩ .nil) nofun nofun (by simp [Recipient.IsProper])
  obtain rfl : p = p' := Except.ok.inj (hp.symm.trans hp')
  have hpo : p.outputs = [Recipient.output ⟨["y"], 2⟩] := by cases hp; rfl
  obtain ⟨id', -, hspend'⟩ := houtputs p hpissued
  have hj := (hspend' 0).2.1 (Recipient.output ⟨["y"], 2⟩) (by rw [hpo]; rfl)
  obtain ⟨q, hq, hqi, -, hqowned, -⟩ := htransfer [(p, 0)] _ "a55e7" [⟨["x", "y"], 1⟩]
    (.cons ⟨hpissued, hj⟩ .nil) nofun nofun (by simp [Recipient.IsProper])
  refine ⟨t, p, q, _, _, k, hsecret, hi, hi', hp, hpi, (hpsign [k] nofun hworks).2 ?_, hj, hq, hqi, ?_⟩
  · intro x hx o ho owner howner
    obtain rfl := List.mem_singleton.1 hx
    rw [hto] at ho
    obtain rfl := Option.some.inj ho
    obtain rfl := List.mem_singleton.1 howner
    exact ⟨k, List.mem_singleton.2 rfl, k.owns_publicKey⟩
  · rintro ⟨s, hs⟩
    obtain ⟨k', hk', howns⟩ :=
      hqowned [k] s hs (p, 0) (List.mem_singleton.2 rfl) _ (by rw [hpo]; rfl) "y" (List.mem_singleton.2 rfl)
    obtain ⟨rest, hrest⟩ := Keypair.mark_of_owns howns
    exact absurd (List.cons.inj hrest).1 (by decide)

end Transaction
end FederatedLedger
