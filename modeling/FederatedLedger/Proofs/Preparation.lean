import FederatedLedger.Proofs.Coverage

/-!
# What becomes of a draft

A draft is checked in a fixed order and refused for the first thing that is wrong with it: `Draft.Refused` lists the
reasons, each for drafts that pass the checks before it. A draft for which there is no reason is made into the
transaction that `Draft.Prepared` describes. What a draft holds for the other operation plays no part (`prepare_spec`).
-/

namespace FederatedLedger

/-! ## The first that fails -/

/-- Element `a` fails, and the `k` elements in front of it pass. -/
def FirstFailing {α : Type} (passes : α → Prop) (as : List α) (k : Nat) (a : α) : Prop :=
  ¬ passes a ∧ ∃ before after, as = before ++ a :: after ∧ before.length = k ∧ ∀ b ∈ before, passes b

section FirstFailing
variable {α : Type} {passes : α → Prop} {a b : α} {as : List α} {k : Nat}

theorem not_firstFailing_nil : ¬ FirstFailing passes [] k a := by
  rintro ⟨-, before, after, h, -⟩
  cases before <;> cases h

theorem firstFailing_cons_of_not (ha : ¬ passes a) : FirstFailing passes (a :: as) k b ↔ k = 0 ∧ b = a := by
  constructor
  · rintro ⟨-, before, after, h, rfl, hbefore⟩
    cases before with
    | nil => exact ⟨rfl, (List.cons.inj h).1.symm⟩
    | cons c before =>
      obtain ⟨rfl, -⟩ := List.cons.inj h
      exact absurd (hbefore _ List.mem_cons_self) ha
  · rintro ⟨rfl, rfl⟩
    exact ⟨ha, [], as, rfl, rfl, nofun⟩

theorem firstFailing_cons_of_passes (ha : passes a) :
    FirstFailing passes (a :: as) k b ↔ ∃ m, k = m + 1 ∧ FirstFailing passes as m b := by
  constructor
  · rintro ⟨hb, before, after, h, rfl, hbefore⟩
    cases before with
    | nil =>
      obtain ⟨rfl, -⟩ := List.cons.inj h
      exact absurd ha hb
    | cons c before =>
      obtain ⟨rfl, rfl⟩ := List.cons.inj h
      exact ⟨before.length, rfl, hb, before, after, rfl, rfl, fun d hd => hbefore d (List.mem_cons_of_mem _ hd)⟩
  · rintro ⟨m, rfl, hb, before, after, rfl, rfl, hbefore⟩
    exact ⟨hb, a :: before, after, rfl, rfl, List.forall_mem_cons.2 ⟨ha, hbefore⟩⟩

/-- Nothing fails iff all pass. -/
theorem forall_passes_iff : (∀ c ∈ as, passes c) ↔ ∀ k a, ¬ FirstFailing passes as k a := by
  induction as with
  | nil => exact ⟨fun _ _ _ => not_firstFailing_nil, fun _ => nofun⟩
  | cons c as ih =>
    rw [List.forall_mem_cons, ih]
    by_cases hc : passes c
    · simp only [firstFailing_cons_of_passes hc, hc, true_and]
      exact ⟨fun h k a ⟨m, _, hm⟩ => h m a hm, fun h m a hm => h (m + 1) a ⟨m, rfl, hm⟩⟩
    · simp [firstFailing_cons_of_not hc, hc]

end FirstFailing

/-! ## Reasons to refuse a draft -/

/-- Whether an input names an output to spend, and who owned it. -/
def Input.IsLinked (i : Input) : Prop := i.fulfills ≠ none ∧ i.ownersBefore ≠ []

/-- The input as it was before anybody signed it. -/
def Input.cleared (i : Input) : Input := { i with fulfillment := none }

/-- What is wrong with recipient `k`, if something is: first of all that there is nothing to receive. -/
def Recipient.fault (k : Nat) (r : Recipient) : LedgerError := if r.amount = 0 then .zeroAmount k else .missingRecipients

namespace Draft
variable {d : Draft} {e : LedgerError} {t : Transaction}

/-- Why a draft is refused. Each reason is one for drafts without the reasons above it. -/
inductive Refused (d : Draft) : LedgerError → Prop
  | missingSigners : d.operation = .create → d.signers = [] → d.Refused .missingSigners
  | createOfLink {id : String} : d.operation = .create → d.signers ≠ [] → d.asset = some (.link id) →
    d.Refused .createOfLink
  | issued {k : Nat} {r : Recipient} : d.operation = .create → d.signers ≠ [] → (∀ id, d.asset ≠ some (.link id)) →
    FirstFailing Recipient.IsProper d.recipients k r → d.Refused (r.fault k)
  | missingInputs : d.operation = .transfer → d.inputs = [] → d.Refused .missingInputs
  | missingRecipients : d.operation = .transfer → d.inputs ≠ [] → d.recipients = [] → d.Refused .missingRecipients
  | transferOfData : d.operation = .transfer → d.inputs ≠ [] → d.recipients ≠ [] → (∀ id, d.asset ≠ some (.link id)) →
    d.Refused .transferOfData
  | unlinked {id : String} {k : Nat} {i : Input} : d.operation = .transfer → d.recipients ≠ [] →
    d.asset = some (.link id) → FirstFailing Input.IsLinked d.inputs k i → d.Refused (.invalidInput k)
  | moved {id : String} {k : Nat} {r : Recipient} : d.operation = .transfer → d.inputs ≠ [] →
    d.asset = some (.link id) → (∀ i ∈ d.inputs, i.IsLinked) →
    FirstFailing Recipient.IsProper d.recipients k r → d.Refused (r.fault k)

theorem outputs_eq_error : ∀ {n : Nat} {rs : List Recipient}, outputs n rs = .error e ↔
    ∃ k r, FirstFailing Recipient.IsProper rs k r ∧ e = r.fault (n + k)
  | _, [] => ⟨nofun, fun ⟨_, _, h, _⟩ => absurd h not_firstFailing_nil⟩
  | n, r :: rs => by
    rw [outputs]
    by_cases hamount : r.amount = 0
    · have hr : ¬ r.IsProper := fun h => absurd hamount (UInt64.pos_iff_ne_zero.1 h.1)
      simp [hamount, firstFailing_cons_of_not hr, Recipient.fault, eq_comm]
    · by_cases hkeys : r.publicKeys = []
      · have hr : ¬ r.IsProper := fun h => h.2 hkeys
        simp [hamount, hkeys, firstFailing_cons_of_not hr, Recipient.fault, eq_comm]
      · have hr : r.IsProper := ⟨UInt64.pos_iff_ne_zero.2 hamount, hkeys⟩
        rw [if_neg hamount, if_neg hkeys, map_eq_error, outputs_eq_error]
        simp only [firstFailing_cons_of_passes hr]
        constructor
        · rintro ⟨k, r', h, rfl⟩
          exact ⟨k + 1, r', ⟨k, rfl, h⟩, by rw [Nat.add_assoc, Nat.add_comm 1 k]⟩
        · rintro ⟨-, r', ⟨k, rfl, h⟩, rfl⟩
          exact ⟨k, r', h, by rw [Nat.add_assoc, Nat.add_comm 1 k]⟩

theorem spent_eq_error : ∀ {n : Nat} {inputs : List Input}, spent n inputs = .error e ↔
    ∃ k i, FirstFailing Input.IsLinked inputs k i ∧ e = .invalidInput (n + k)
  | _, [] => ⟨nofun, fun ⟨_, _, h, _⟩ => absurd h not_firstFailing_nil⟩
  | n, i :: inputs => by
    rw [spent]
    by_cases hi : i.IsLinked
    · rw [if_neg (by simpa [Input.IsLinked] using hi), map_eq_error, spent_eq_error]
      simp only [firstFailing_cons_of_passes hi]
      constructor
      · rintro ⟨k, j, h, rfl⟩
        exact ⟨k + 1, j, ⟨k, rfl, h⟩, by rw [Nat.add_assoc, Nat.add_comm 1 k]⟩
      · rintro ⟨-, j, ⟨k, rfl, h⟩, rfl⟩
        exact ⟨k, j, h, by rw [Nat.add_assoc, Nat.add_comm 1 k]⟩
    · have hor : i.fulfills = none ∨ i.ownersBefore = [] := by
        rw [Input.IsLinked, not_and_or, not_not, not_not] at hi
        exact hi
      rw [if_pos hor]
      simp [firstFailing_cons_of_not hi, eq_comm]

theorem spent_eq_ok {n : Nat} {inputs is : List Input} :
    spent n inputs = .ok is ↔ (∀ i ∈ inputs, i.IsLinked) ∧ is = inputs.map Input.cleared := by
  constructor
  · intro h
    have hlinked : ∀ i ∈ inputs, i.IsLinked := by
      rw [forall_passes_iff]
      intro k i hfirst
      rw [spent_eq_error.2 ⟨k, i, hfirst, rfl⟩] at h
      cases h
    exact ⟨hlinked, Except.ok.inj (h.symm.trans (spent_of_linked hlinked))⟩
  · rintro ⟨hlinked, rfl⟩
    exact spent_of_linked hlinked

/-! ## Refusing -/

theorem firstFailing_createRecipients {k : Nat} {r : Recipient} (hsigners : d.signers ≠ []) :
    FirstFailing Recipient.IsProper d.createRecipients k r ↔ FirstFailing Recipient.IsProper d.recipients k r := by
  rw [createRecipients]
  split
  · rename_i hnil
    have hproper : Recipient.IsProper ⟨d.signers, 1⟩ := ⟨show (0 : UInt64) < 1 by decide, hsigners⟩
    simp [hnil, firstFailing_cons_of_passes hproper, not_firstFailing_nil]
  · rfl

theorem prepare_of_create (h : d.operation = .create) : d.prepare = d.prepareCreate := by rw [prepare, h]

theorem prepare_of_transfer (h : d.operation = .transfer) : d.prepare = d.prepareTransfer := by rw [prepare, h]

/-- With signers, and with no asset or its data, it comes down to the recipients. -/
theorem prepareCreate_of_data (hsigners : d.signers ≠ []) (hasset : ∀ id, d.asset ≠ some (.link id)) :
    d.prepareCreate = (do
      let os ← outputs 0 d.createRecipients
      return Transaction.withId ⟨none, transactionVersion, .create, d.asset.getD (.data none), d.metadata,
        [⟨d.signers, none, none⟩], os⟩) := by
  rw [prepareCreate, if_neg hsigners]
  cases h : d.asset with
  | none => rfl
  | some a => cases a with
    | link id => exact absurd h (hasset id)
    | data content => rfl

/-- With inputs, recipients and an asset to move, it comes down to each of the inputs and recipients. -/
theorem prepareTransfer_of_link {id : String} (hinputs : d.inputs ≠ []) (hrecipients : d.recipients ≠ [])
    (hasset : d.asset = some (.link id)) :
    d.prepareTransfer = (do
      let is ← spent 0 d.inputs
      let os ← outputs 0 d.recipients
      return Transaction.withId ⟨none, transactionVersion, .transfer, .link id, d.metadata, is, os⟩) := by
  rw [prepareTransfer, if_neg hinputs, if_neg hrecipients, hasset]

/-- Something that fails is an element. -/
theorem ne_nil_of_firstFailing {α : Type} {passes : α → Prop} {as : List α} {k : Nat} {a : α}
    (h : FirstFailing passes as k a) : as ≠ [] := by
  rintro rfl
  exact not_firstFailing_nil h

/-- A draft is refused for each reason that there is. -/
theorem prepare_of_refused (h : d.Refused e) : d.prepare = .error e := by
  cases h with
  | missingSigners hop hsigners => rw [prepare_of_create hop, prepareCreate, if_pos hsigners]
  | createOfLink hop hsigners hasset =>
    rw [prepare_of_create hop, prepareCreate, if_neg hsigners, hasset]
    rfl
  | issued hop hsigners hasset hfirst =>
    rw [prepare_of_create hop, prepareCreate_of_data hsigners hasset, map_eq_error, outputs_eq_error]
    exact ⟨_, _, (firstFailing_createRecipients hsigners).2 hfirst, by rw [Nat.zero_add]⟩
  | missingInputs hop hinputs => rw [prepare_of_transfer hop, prepareTransfer, if_pos hinputs]
  | missingRecipients hop hinputs hrecipients =>
    rw [prepare_of_transfer hop, prepareTransfer, if_neg hinputs, if_pos hrecipients]
  | transferOfData hop hinputs hrecipients hasset =>
    rw [prepare_of_transfer hop, prepareTransfer, if_neg hinputs, if_neg hrecipients]
    split
    · rename_i id h
      exact absurd h (hasset id)
    · rfl
  | unlinked hop hrecipients hasset hfirst =>
    rw [prepare_of_transfer hop, prepareTransfer_of_link (ne_nil_of_firstFailing hfirst) hrecipients hasset,
      map₂_eq_error, spent_eq_error]
    exact .inl ⟨_, _, hfirst, by rw [Nat.zero_add]⟩
  | moved hop hinputs hasset hlinked hfirst =>
    rw [prepare_of_transfer hop, prepareTransfer_of_link hinputs (ne_nil_of_firstFailing hfirst) hasset,
      map₂_eq_error, outputs_eq_error]
    exact .inr ⟨⟨_, spent_of_linked hlinked⟩, _, _, hfirst, by rw [Nat.zero_add]⟩

/-- A draft that is refused is so for one of the reasons, in the order of the checks. -/
theorem refused_of_prepare (h : d.prepare = .error e) : d.Refused e := by
  cases hop : d.operation with
  | create =>
    rw [prepare_of_create hop] at h
    by_cases hsigners : d.signers = []
    · rw [prepareCreate, if_pos hsigners] at h
      exact Except.error.inj h ▸ .missingSigners hop hsigners
    · by_cases hasset : ∃ id, d.asset = some (.link id)
      · obtain ⟨id, hasset⟩ := hasset
        rw [prepareCreate, if_neg hsigners, hasset] at h
        exact Except.error.inj h ▸ .createOfLink hop hsigners hasset
      · rw [not_exists] at hasset
        rw [prepareCreate_of_data hsigners hasset, map_eq_error, outputs_eq_error] at h
        obtain ⟨k, r, hfirst, rfl⟩ := h
        rw [Nat.zero_add]
        exact .issued hop hsigners hasset ((firstFailing_createRecipients hsigners).1 hfirst)
  | transfer =>
    rw [prepare_of_transfer hop] at h
    by_cases hinputs : d.inputs = []
    · rw [prepareTransfer, if_pos hinputs] at h
      exact Except.error.inj h ▸ .missingInputs hop hinputs
    · by_cases hrecipients : d.recipients = []
      · rw [prepareTransfer, if_neg hinputs, if_pos hrecipients] at h
        exact Except.error.inj h ▸ .missingRecipients hop hinputs hrecipients
      · by_cases hasset : ∃ id, d.asset = some (.link id)
        · obtain ⟨id, hasset⟩ := hasset
          rw [prepareTransfer_of_link hinputs hrecipients hasset, map₂_eq_error, spent_eq_error, outputs_eq_error] at h
          rcases h with ⟨k, i, hfirst, rfl⟩ | ⟨⟨is, his⟩, k, r, hfirst, rfl⟩
          · rw [Nat.zero_add]
            exact .unlinked hop hrecipients hasset hfirst
          · rw [Nat.zero_add]
            exact .moved hop hinputs hasset (spent_eq_ok.1 his).1 hfirst
        · rw [not_exists] at hasset
          rw [prepareTransfer, if_neg hinputs, if_neg hrecipients] at h
          split at h
          · rename_i id hid
            exact absurd hid (hasset id)
          · exact Except.error.inj h ▸ .transferOfData hop hinputs hrecipients hasset

end Draft

/-! ## What a transaction is made of -/

/-- The condition under which the owners of some keys spend: a single one signs, and of several, all of them do. How many
have to is a number of 32 bits: that of the keys, where it is one of 32 bits. -/
structure ConditionDetails.IsFor (keys : List String) (c : ConditionDetails) : Prop where
  single : ∀ key, keys = [key] → c = ⟨"ecdsa-secp256k1", some key, none, []⟩
  several : keys.length ≠ 1 → c = ⟨"threshold-sha-256", none, some (UInt32.ofNat keys.length),
    keys.map fun key => ⟨"ecdsa-secp256k1", some key, none, []⟩⟩
  threshold : keys.length ≠ 1 → keys.length < UInt32.size → c.threshold.map UInt32.toNat = some keys.length

/-- The output gives the recipient what is meant for it. -/
structure Recipient.Receives (r : Recipient) (o : Output) : Prop where
  owners : o.publicKeys = r.publicKeys
  amount : o.amount.toList = Nat.toDigits 10 r.amount.toNat
  details : o.condition.details.IsFor r.publicKeys
  uri : o.condition.uri =
    "ni:///keccak-256;" ++ o.condition.details.toJson.digest ++ "?fpt=" ++ o.condition.details.kind

theorem Condition.detailsFor_several {keys : List String} (h : keys.length ≠ 1) : Condition.detailsFor keys =
    ⟨"threshold-sha-256", none, some (UInt32.ofNat keys.length), keys.map Condition.single⟩ := by
  match keys with
  | [] => rfl
  | [key] => exact absurd rfl h
  | _ :: _ :: _ => rfl

theorem Condition.isFor_detailsFor (keys : List String) : (Condition.detailsFor keys).IsFor keys where
  single := by
    rintro key rfl
    rfl
  several := Condition.detailsFor_several
  threshold h hlt := by
    rw [Condition.detailsFor_several h]
    exact congrArg some (UInt32.toNat_ofNat_of_lt hlt)

theorem Recipient.receives_output (r : Recipient) : r.Receives r.output :=
  ⟨rfl, by simp [Recipient.output], Condition.isFor_detailsFor _, rfl⟩

namespace Draft
variable {d : Draft} {t : Transaction}

/-- Who receives something: the recipients, or the signers of a CREATE without any. -/
def payees (d : Draft) : List Recipient :=
  match d.operation with
  | .create => d.createRecipients
  | .transfer => d.recipients

/-- The transaction is what the draft says, and unsigned. -/
structure Prepared (d : Draft) (t : Transaction) : Prop where
  id : t.id = some t.transactionId
  version : t.version = transactionVersion
  operation : t.operation = d.operation
  asset : t.asset = d.asset.getD (.data none)
  metadata : t.metadata = d.metadata
  issued : d.operation = .create → t.inputs = [⟨d.signers, none, none⟩]
  spent : d.operation = .transfer → t.inputs = d.inputs.map Input.cleared
  inputs_ne : t.inputs ≠ []
  unsigned : ∀ i ∈ t.inputs, i.fulfillment = none
  outputs : List.Forall₂ Recipient.Receives d.payees t.outputs
  outputs_ne : t.outputs ≠ []

theorem createRecipients_ne_nil (d : Draft) : d.createRecipients ≠ [] := by
  rw [createRecipients]
  split
  · exact List.cons_ne_nil _ _
  · assumption

theorem forall₂_receives (rs : List Recipient) : List.Forall₂ Recipient.Receives rs (rs.map Recipient.output) := by
  rw [List.forall₂_map_right_iff, List.forall₂_same]
  exact fun r _ => r.receives_output

theorem not_refused_of_prepare {e : LedgerError} (h : d.prepare = .ok t) : ¬ d.Refused e := by
  intro hrefused
  rw [prepare_of_refused hrefused] at h
  cases h

theorem prepared_of_prepare (h : d.prepare = .ok t) : d.Prepared t := by
  have hrefused {e : LedgerError} : ¬ d.Refused e := not_refused_of_prepare h
  cases hop : d.operation with
  | create =>
    have hsigners : d.signers ≠ [] := fun hnil => hrefused (.missingSigners hop hnil)
    have hasset : ∀ id, d.asset ≠ some (.link id) := fun id hid => hrefused (.createOfLink hop hsigners hid)
    rw [prepare_of_create hop, prepareCreate_of_data hsigners hasset] at h
    obtain ⟨os, hos, rfl⟩ := map_eq_ok.1 h
    obtain ⟨-, rfl⟩ := outputs_eq_ok.1 hos
    exact {
      id := rfl
      version := rfl
      operation := hop.symm
      asset := rfl
      metadata := rfl
      issued := fun _ => rfl
      spent := fun h => by rw [hop] at h; cases h
      inputs_ne := List.cons_ne_nil _ _
      unsigned := List.forall_mem_singleton.2 rfl
      outputs := by rw [payees, hop]; exact forall₂_receives _
      outputs_ne := by simpa [Transaction.withId] using d.createRecipients_ne_nil }
  | transfer =>
    have hinputs : d.inputs ≠ [] := fun hnil => hrefused (.missingInputs hop hnil)
    have hrecipients : d.recipients ≠ [] := fun hnil => hrefused (.missingRecipients hop hinputs hnil)
    have hasset : ∃ id, d.asset = some (.link id) := by
      by_contra hnone
      exact hrefused (.transferOfData hop hinputs hrecipients (not_exists.1 hnone))
    obtain ⟨id, hasset⟩ := hasset
    rw [prepare_of_transfer hop, prepareTransfer_of_link hinputs hrecipients hasset] at h
    obtain ⟨is, os, his, hos, rfl⟩ := map₂_eq_ok.1 h
    obtain ⟨-, rfl⟩ := spent_eq_ok.1 his
    obtain ⟨-, rfl⟩ := outputs_eq_ok.1 hos
    exact {
      id := rfl
      version := rfl
      operation := hop.symm
      asset := by rw [hasset]; rfl
      metadata := rfl
      issued := fun h => by rw [hop] at h; cases h
      spent := fun _ => rfl
      inputs_ne := by simpa [Transaction.withId] using hinputs
      unsigned := by simp [Transaction.withId, Input.cleared]
      outputs := by rw [payees, hop]; exact forall₂_receives _
      outputs_ne := by simpa [Transaction.withId] using hrecipients }

/-! ## What plays no part -/

/-- A CREATE spends nothing, whatever inputs its draft holds. -/
theorem prepare_with_inputs (hop : d.operation = .create) (inputs : List Input) :
    { d with inputs }.prepare = d.prepare := by
  rw [prepare_of_create hop, prepare_of_create (d := { d with inputs }) hop]
  rfl

/-- Old signatures are neither looked at nor kept. -/
theorem spent_map_cleared : ∀ (n : Nat) (inputs : List Input), spent n (inputs.map Input.cleared) = spent n inputs
  | _, [] => rfl
  | n, i :: inputs => by
    rw [List.map_cons, spent, spent, spent_map_cleared]
    rfl

/-- A TRANSFER has the signers of its draft nowhere, nor the signatures that its inputs came with. -/
theorem prepare_with_signers (hop : d.operation = .transfer) (signers : List String) {inputs : List Input}
    (hinputs : inputs.map Input.cleared = d.inputs.map Input.cleared) :
    { d with signers, inputs }.prepare = d.prepare := by
  have hspent : spent 0 inputs = spent 0 d.inputs := by
    rw [← spent_map_cleared, hinputs, spent_map_cleared]
  have hnil : inputs = [] ↔ d.inputs = [] := by
    rw [← List.map_eq_nil_iff (f := Input.cleared), hinputs, List.map_eq_nil_iff]
  rw [prepare_of_transfer hop, prepare_of_transfer (d := { d with signers, inputs }) hop, prepareTransfer, prepareTransfer]
  simp only [hnil, hspent]

/-- **What becomes of a draft.** It is refused for the first thing that is wrong with it, and only then; else it
becomes the transaction that it describes. For a CREATE the inputs play no part, and for a TRANSFER neither the signers
nor the signatures of the inputs do. -/
theorem prepare_spec (d : Draft) :
    (∀ e, d.prepare = .error e ↔ d.Refused e) ∧
    (∀ t, d.prepare = .ok t → d.Prepared t) ∧
    (d.operation = .create → ∀ inputs, { d with inputs }.prepare = d.prepare) ∧
    (d.operation = .transfer → ∀ signers inputs, inputs.map Input.cleared = d.inputs.map Input.cleared →
      { d with signers, inputs }.prepare = d.prepare) :=
  ⟨fun _ => ⟨refused_of_prepare, prepare_of_refused⟩, fun _ => prepared_of_prepare, prepare_with_inputs,
    fun hop signers _ hinputs => prepare_with_signers hop signers hinputs⟩

/-- The second input has no owner, and the first recipient nothing to receive: the input is found first, also if
somebody signed the first input. For a proper recipient, and without that input, there is a transaction. -/
theorem prepare_spec_transfer : ∃ (d p : Draft) (t : Transaction), d.operation = .transfer ∧
    d.recipients.map Recipient.amount = [0, 7] ∧ d.prepare = .error (.invalidInput 1) ∧
    { d with signers := ["0xC"], inputs := d.inputs.map fun i : Input => { i with fulfillment := some "5167" } }.prepare =
      .error (.invalidInput 1) ∧
    p.prepare = .ok t ∧ p.Prepared t ∧ t.outputs.map Output.amount = ["7"] := by
  let linked : Input := ⟨["0xA"], some ⟨"c0ffee", 1⟩, some "5167"⟩
  let unowned : Input := ⟨[], some ⟨"c0ffee", 2⟩, none⟩
  let d : Draft := ⟨.transfer, [], [⟨["0xB"], 0⟩, ⟨["0xB", "0xC"], 7⟩], some (.link "a"), none, [linked, unowned]⟩
  let p : Draft := ⟨.transfer, [], [⟨["0xB", "0xC"], 7⟩], some (.link "a"), none, [linked]⟩
  have hfirst : FirstFailing Input.IsLinked d.inputs 1 unowned :=
    ⟨fun h => h.2 rfl, [linked], [], rfl, rfl, List.forall_mem_singleton.2 ⟨nofun, nofun⟩⟩
  have hrefused : d.prepare = .error (.invalidInput 1) :=
    ((prepare_spec d).1 _).2 (.unlinked rfl nofun rfl hfirst)
  have hsigned := (prepare_spec d).2.2.2 rfl ["0xC"] (d.inputs.map fun i => { i with fulfillment := some "5167" }) rfl
  have hp := prepare_of_linked (d := p) rfl rfl nofun (List.forall_mem_singleton.2 ⟨nofun, nofun⟩) nofun
    (List.forall_mem_singleton.2 ⟨show (0 : UInt64) < 7 by decide, nofun⟩)
  exact ⟨d, p, _, rfl, rfl, hrefused, hsigned.trans hrefused, hp, (prepare_spec p).2.1 _ hp, by decide⟩

end Draft
end FederatedLedger
