import FederatedLedger.Proofs.Spending

/-!
# Keys that cover the owners

Signing takes the owners in the order of the inputs, and stops at the first one whose name none of the keys owns, unless a
key fails to sign before (`signedInputs_error`); if there is none, every owner gets a signature. What becomes of an owner
depends on the keys only through the first one that owns the name. If no two of the keys have the same account, then at
most one of them does (`find?_owns_of_subset`), so neither their order nor their number matters (`sign_congr`).
-/

namespace FederatedLedger

/-! ## Owners -/

/-- The first of the owners whose name none of the keys owns. -/
def Keypair.firstUnowned? (keys : List Keypair) (owners : List String) : Option String :=
  owners.find? fun owner => !keys.any (·.owns owner)

/-- No two of the keys have the same account. -/
def Keypair.DistinctAccounts (keys : List Keypair) : Prop :=
  ∀ k ∈ keys, ∀ l ∈ keys, Secp256k1.account k.secret = Secp256k1.account l.secret → k = l

/-- Those who have to sign, in the order of the inputs. -/
def Transaction.owners (t : Transaction) : List String := t.inputs.flatMap Input.ownersBefore

/-- Each input of `s` has the signatures that the owners of that input of `t` made with the keys, of 130 digits each. -/
def Transaction.SignedBy (keys : List Keypair) (t s : Transaction) : Prop :=
  List.Forall₂ (fun i j => ∃ signatures, j.fulfillment = some (String.join signatures) ∧
    Signatures keys (t.signedBytes i) i.ownersBefore signatures ∧
    ∀ signature ∈ signatures, signature.length = 130) t.inputs s.inputs

namespace Keypair
variable {keys keys' : List Keypair} {k : Keypair} {owner : String} {owners : List String}

theorem firstUnowned?_cons (keys : List Keypair) (owner : String) (owners : List String) :
    firstUnowned? keys (owner :: owners) =
      if keys.any (·.owns owner) then firstUnowned? keys owners else some owner := by
  simp only [firstUnowned?, List.find?_cons]
  cases keys.any (·.owns owner) <;> rfl

theorem firstUnowned?_append (keys : List Keypair) (owners more : List String) :
    firstUnowned? keys (owners ++ more) = (firstUnowned? keys owners).or (firstUnowned? keys more) :=
  List.find?_append

theorem firstUnowned?_eq_none : firstUnowned? keys owners = none ↔
    ∀ owner ∈ owners, ∃ k ∈ keys, k.owns owner = true := by
  simp [firstUnowned?]

/-- Among keys with different accounts only one owns a name. -/
theorem find?_owns_of_subset (hd : DistinctAccounts keys') (hsub : keys ⊆ keys')
    (h : keys.find? (·.owns owner) = some k) : keys'.find? (·.owns owner) = some k := by
  have hk := hsub (List.mem_of_find?_eq_some h)
  have howns := List.find?_some h
  cases h' : keys'.find? (·.owns owner) with
  | none => exact absurd howns (List.find?_eq_none.1 h' k hk)
  | some l =>
    have hl := List.mem_of_find?_eq_some h'
    have hlowns := List.find?_some h'
    rw [hd k hk l hl (account_eq_of_owns howns hlowns)]

theorem find?_owns_of_mem_iff (hd : DistinctAccounts keys') (hmem : ∀ k, k ∈ keys ↔ k ∈ keys') (owner : String) :
    keys.find? (·.owns owner) = keys'.find? (·.owns owner) := by
  cases h : keys.find? (·.owns owner) with
  | some k => exact (find?_owns_of_subset hd (fun k hk => (hmem k).1 hk) h).symm
  | none =>
    rw [eq_comm, List.find?_eq_none]
    intro k hk
    exact List.find?_eq_none.1 h k ((hmem k).2 hk)

end Keypair

namespace Transaction
variable {t s : Transaction} {keys keys' : List Keypair} {message payload owner : String} {e : LedgerError}

/-! ## Missing keys -/

/-- Why owners get no signatures: a key that is asked does not sign, or the first owner that none of the keys owns is
reached before. -/
theorem signaturesFor_error : ∀ {owners : List String}, signaturesFor keys payload owners = .error e →
    (e = .signing ∧ ∃ owner ∈ owners, ∃ k ∈ keys, k.owns owner = true ∧ k.sign? (utf8 payload) = none) ∨
      ∃ o, Keypair.firstUnowned? keys owners = some o ∧ e = .missingSigningKey o
  | [], h => nomatch h
  | owner :: owners, h => by
    rw [signaturesFor, map₂_eq_error] at h
    rcases h with h | ⟨⟨signature, hs⟩, h⟩
    · rcases signatureFor_error h with ⟨rfl, hfails⟩ | ⟨rfl, hunowned⟩
      · exact .inl ⟨rfl, owner, List.mem_cons_self, hfails⟩
      · have hany : ¬ keys.any (·.owns owner) = true := by simpa using hunowned
        exact .inr ⟨owner, by rw [Keypair.firstUnowned?_cons, if_neg hany], rfl⟩
    · obtain ⟨k, hk, howns, -⟩ := signatureFor_ok hs
      have hany : keys.any (·.owns owner) = true := List.any_eq_true.2 ⟨k, hk, howns⟩
      rw [Keypair.firstUnowned?_cons, if_pos hany]
      refine (signaturesFor_error h).imp_left ?_
      rintro ⟨rfl, o, ho, hfails⟩
      exact ⟨rfl, o, List.mem_cons_of_mem _ ho, hfails⟩

/-- **The first missing key.** -/
theorem signedInputs_error : ∀ {inputs : List Input}, signedInputs keys message inputs = .error e →
    (e = .signing ∧ ∃ i ∈ inputs, ∃ owner ∈ i.ownersBefore, ∃ k ∈ keys, k.owns owner = true ∧
      k.sign? (utf8 (Transaction.payload message i)) = none) ∨
      ∃ o, Keypair.firstUnowned? keys (inputs.flatMap Input.ownersBefore) = some o ∧ e = .missingSigningKey o
  | [], h => nomatch h
  | i :: inputs, h => by
    rw [signedInputs, map₂_eq_error] at h
    rw [List.flatMap_cons, Keypair.firstUnowned?_append]
    rcases h with h | ⟨⟨signatures, hs⟩, h⟩
    · rcases signaturesFor_error h with ⟨rfl, hfails⟩ | ⟨o, ho, rfl⟩
      · exact .inl ⟨rfl, i, List.mem_cons_self, hfails⟩
      · exact .inr ⟨o, by rw [ho, Option.some_or], rfl⟩
    · have howned : Keypair.firstUnowned? keys i.ownersBefore = none :=
        Keypair.firstUnowned?_eq_none.2 (owned_of_signaturesFor hs)
      rw [howned, Option.none_or]
      refine (signedInputs_error h).imp_left ?_
      rintro ⟨rfl, j, hj, hfails⟩
      exact ⟨rfl, j, List.mem_cons_of_mem _ hj, hfails⟩

/-- Why a transaction is not signed. -/
theorem sign_error (h : t.sign keys = .error e) : (e = .noKeys ∧ keys = []) ∨ (e = .signing ∧ ¬ SignerWorks keys t) ∨
    ∃ o, Keypair.firstUnowned? keys t.owners = some o ∧ e = .missingSigningKey o := by
  cases keys with
  | nil => exact .inl ⟨(Except.error.inj h).symm, rfl⟩
  | cons k keys =>
    rw [sign, if_neg nofun, map_eq_error] at h
    refine .inr ((signedInputs_error h).imp_left ?_)
    rintro ⟨rfl, i, hi, owner, howner, l, hl, howns, hfails⟩
    exact ⟨rfl, fun hworks => hworks i hi owner howner l hl howns hfails⟩

theorem sign_eq_noKeys : t.sign keys = .error .noKeys ↔ keys = [] := by
  constructor
  · intro h
    rcases sign_error h with ⟨-, hnil⟩ | ⟨he, -⟩ | ⟨o, -, he⟩
    · exact hnil
    · cases he
    · cases he
  · rintro rfl
    rfl

theorem firstUnowned?_of_sign_error (h : t.sign keys = .error (.missingSigningKey owner)) :
    Keypair.firstUnowned? keys t.owners = some owner := by
  rcases sign_error h with ⟨he, -⟩ | ⟨he, -⟩ | ⟨o, ho, he⟩
  · cases he
  · cases he
  · rw [ho, LedgerError.missingSigningKey.inj he]

theorem firstUnowned?_of_sign (h : t.sign keys = .ok s) : Keypair.firstUnowned? keys t.owners = none := by
  rw [Keypair.firstUnowned?_eq_none]
  intro owner howner
  obtain ⟨i, hi, howner⟩ := List.mem_flatMap.1 howner
  exact owned_of_sign h i hi owner howner

/-- If the signer works, then the first missing key is what signing fails for. -/
theorem sign_eq_missing_iff (hkeys : keys ≠ []) (hworks : SignerWorks keys t) :
    t.sign keys = .error (.missingSigningKey owner) ↔ Keypair.firstUnowned? keys t.owners = some owner := by
  refine ⟨firstUnowned?_of_sign_error, fun hunowned => ?_⟩
  cases h : t.sign keys with
  | ok s => rw [firstUnowned?_of_sign h] at hunowned; cases hunowned
  | error e =>
    rcases sign_error h with ⟨-, hnil⟩ | ⟨-, hfails⟩ | ⟨o, ho, rfl⟩
    · exact absurd hnil hkeys
    · exact absurd hworks hfails
    · rw [Option.some.inj (ho.symm.trans hunowned)]

/-- Each signature has 130 characters. -/
theorem Signatures.length_eq {bytes : Bytes} {owners signatures : List String}
    (h : Signatures keys bytes owners signatures) : ∀ signature ∈ signatures, signature.length = 130 := by
  induction h with
  | nil => simp
  | cons hk _ ih =>
    obtain ⟨k, -, -, hs⟩ := hk
    exact List.forall_mem_cons.2 ⟨Keypair.length_of_sign? hs, ih⟩

/-- If the signer works, a transaction is signed unless an owner has no key. -/
theorem sign_of_covered (hkeys : keys ≠ []) (hworks : SignerWorks keys t)
    (hcovered : Keypair.firstUnowned? keys t.owners = none) : ∃ s, t.sign keys = .ok s :=
  (sign_isOk_iff hkeys hworks).2 fun i hi owner howner =>
    Keypair.firstUnowned?_eq_none.1 hcovered owner (List.mem_flatMap.2 ⟨i, hi, howner⟩)

theorem signedBy_of_sign (h : t.sign keys = .ok s) : SignedBy keys t s := by
  refine (signatures_of_sign h).imp fun i j hij => ?_
  obtain ⟨signatures, hj, hall⟩ := hij.signed
  exact ⟨signatures, hj, hall, hall.length_eq⟩

/-! ## Other keys -/

/-- For an owner the keys count only by the first that owns the name. -/
theorem signatureFor_congr (h : keys.find? (·.owns owner) = keys'.find? (·.owns owner)) :
    signatureFor keys payload owner = signatureFor keys' payload owner := by
  rw [signatureFor, signatureFor, h]

theorem signaturesFor_congr : ∀ {owners : List String},
    (∀ owner ∈ owners, keys.find? (·.owns owner) = keys'.find? (·.owns owner)) →
    signaturesFor keys payload owners = signaturesFor keys' payload owners
  | [], _ => rfl
  | owner :: owners, h => by
    rw [List.forall_mem_cons] at h
    rw [signaturesFor, signaturesFor, signatureFor_congr h.1, signaturesFor_congr h.2]

theorem signedInputs_congr : ∀ {inputs : List Input},
    (∀ i ∈ inputs, ∀ owner ∈ i.ownersBefore, keys.find? (·.owns owner) = keys'.find? (·.owns owner)) →
    signedInputs keys message inputs = signedInputs keys' message inputs
  | [], _ => rfl
  | i :: inputs, h => by
    rw [List.forall_mem_cons] at h
    rw [signedInputs, signedInputs, signaturesFor_congr h.1, signedInputs_congr h.2]

/-- Keys that give the owners the same first keys sign in the same way. -/
theorem sign_congr (hempty : keys = [] ↔ keys' = [])
    (hfirst : ∀ owner ∈ t.owners, keys.find? (·.owns owner) = keys'.find? (·.owns owner)) :
    t.sign keys = t.sign keys' := by
  have hinputs : signedInputs keys t.message t.inputs = signedInputs keys' t.message t.inputs :=
    signedInputs_congr fun i hi owner howner => hfirst owner (List.mem_flatMap.2 ⟨i, hi, howner⟩)
  have hnone : keys.isEmpty = keys'.isEmpty := by
    rw [Bool.eq_iff_iff, List.isEmpty_iff, List.isEmpty_iff, hempty]
  rw [sign, sign, hnone, hinputs]

/-- A signed transaction has found a key for each owner. -/
theorem find?_owns_of_sign (h : t.sign keys = .ok s) (howner : owner ∈ t.owners) :
    ∃ k, keys.find? (·.owns owner) = some k := by
  have howned := Keypair.firstUnowned?_eq_none.1 (firstUnowned?_of_sign h) owner howner
  exact Option.isSome_iff_exists.1 (List.find?_isSome.2 howned)

/-- The order of the keys does not matter, nor how often one is given. -/
theorem sign_of_mem_iff (hd : Keypair.DistinctAccounts keys') (hmem : ∀ k, k ∈ keys ↔ k ∈ keys') :
    t.sign keys = t.sign keys' := by
  apply sign_congr
  · simp only [List.eq_nil_iff_forall_not_mem, hmem]
  · intro owner _
    exact Keypair.find?_owns_of_mem_iff hd hmem owner

/-- Once there are enough keys, further ones do not matter. -/
theorem sign_of_subset (hd : Keypair.DistinctAccounts keys') (hsub : keys ⊆ keys') (h : t.sign keys = .ok s) :
    t.sign keys' = .ok s := by
  rw [← h]
  symm
  apply sign_congr
  · have hkeys := (sign_eq_ok.1 h).1
    obtain ⟨k, hk⟩ := List.exists_mem_of_ne_nil keys hkeys
    simp [hkeys, List.ne_nil_of_mem (hsub hk)]
  · intro owner howner
    obtain ⟨k, hk⟩ := find?_owns_of_sign h howner
    rw [hk, Keypair.find?_owns_of_subset hd hsub hk]

/-! ## Private keys -/

theorem readKeys_of_read {texts : List String} {keys : List Keypair}
    (h : List.Forall₂ (fun text k => Keypair.read text = .ok k) texts keys) : readKeys texts = .ok keys := by
  induction h with
  | nil => rfl
  | cons hk _ ih => rw [readKeys, hk, ih]; rfl

theorem readKeys_of_unreadable {before after : List String} {bad : String}
    (hbefore : ∀ text ∈ before, ∃ k, Keypair.read text = .ok k) (hbad : Keypair.read bad = .error e) :
    readKeys (before ++ bad :: after) = .error e := by
  induction before with
  | nil => rw [List.nil_append, readKeys, hbad]; rfl
  | cons text before ih =>
    rw [List.forall_mem_cons] at hbefore
    obtain ⟨⟨k, hk⟩, hrest⟩ := hbefore
    rw [List.cons_append, readKeys, hk, ih hrest]; rfl

/-- **Signing takes a key for each owner.** It fails for want of any key iff there is none; for want of an owner's key
only if that owner is the first, in the order of the inputs, whose name none of the keys owns; and if it succeeds, there
is no such owner, and each input has the signatures of its owners in order. Provided that the signer works, it does fail
for the first such owner, and succeeds if there is none. If different keys have different accounts, then it is the same
whatever the order of the keys, and however often each of them is given; and once it succeeds, further keys change
nothing. Keys given as texts are read first, and the first that cannot be read is what the call fails for, whatever the
transaction. -/
theorem sign_by_owners (t : Transaction) :
    (∀ keys, (t.sign keys = .error .noKeys ↔ keys = []) ∧
      (∀ owner, t.sign keys = .error (.missingSigningKey owner) → Keypair.firstUnowned? keys t.owners = some owner) ∧
      (∀ s, t.sign keys = .ok s → Keypair.firstUnowned? keys t.owners = none ∧ SignedBy keys t s) ∧
      (SignerWorks keys t → keys ≠ [] →
        (∀ owner, t.sign keys = .error (.missingSigningKey owner) ↔ Keypair.firstUnowned? keys t.owners = some owner) ∧
        (Keypair.firstUnowned? keys t.owners = none → ∃ s, t.sign keys = .ok s ∧ SignedBy keys t s))) ∧
    (∀ keys keys', Keypair.DistinctAccounts keys' →
      ((∀ k, k ∈ keys ↔ k ∈ keys') → t.sign keys = t.sign keys') ∧
      (keys ⊆ keys' → ∀ s, t.sign keys = .ok s → t.sign keys' = .ok s)) ∧
    (∀ before bad after e, (∀ text ∈ before, ∃ k, Keypair.read text = .ok k) → Keypair.read bad = .error e →
      t.fulfill (before ++ bad :: after) = .error e) ∧
    ∀ texts keys, List.Forall₂ (fun text k => Keypair.read text = .ok k) texts keys → t.fulfill texts = t.sign keys := by
  refine ⟨fun keys => ⟨sign_eq_noKeys, fun owner => firstUnowned?_of_sign_error,
      fun s h => ⟨firstUnowned?_of_sign h, signedBy_of_sign h⟩, fun hworks hkeys =>
      ⟨fun owner => sign_eq_missing_iff hkeys hworks, fun hcovered => ?_⟩⟩,
    fun keys keys' hd => ⟨fun hmem => sign_of_mem_iff hd hmem, fun hsub s h => sign_of_subset hd hsub h⟩, ?_, ?_⟩
  · obtain ⟨s, hs⟩ := sign_of_covered hkeys hworks hcovered
    exact ⟨s, hs, signedBy_of_sign hs⟩
  · intro before bad after e hbefore hbad
    rw [fulfill, readKeys_of_unreadable hbefore hbad]
    rfl
  · intro texts keys h
    rw [fulfill, readKeys_of_read h]
    rfl

/-- The key is the secret 1. It signs what it issues to itself. Another transaction has an input that nobody has to sign;
and one more needs two owners besides, and the key owns the names of neither. -/
theorem sign_by_owners_unowned : ∃ (k : Keypair) (t u s v w : Transaction), k.secret = 1 ∧ u.owners = ["x", "y"] ∧
    u.sign [] = .error .noKeys ∧ u.sign [k] = .error (.missingSigningKey "x") ∧
    t.sign [k] = .ok s ∧ s.inputs.map Input.fulfillment = [some ""] ∧ t.sign [k, k] = .ok s ∧
    t.fulfill ["0000000000000000000000000000000000000000000000000000000000000001"] = .ok s ∧
    u.fulfill ["0000000000000000000000000000000000000000000000000000000000000001", "1", "22"] =
      .error (.invalidPrivateKey .oddLength) ∧
    v.owners = [k.publicKey] ∧ v.sign [k] = .ok w ∧
    (∃ signature, signature.length = 130 ∧ w.inputs.map Input.fulfillment = [some signature]) ∧
    v.fulfill ["0000000000000000000000000000000000000000000000000000000000000001"] = .ok w := by
  obtain ⟨k, v, hsecret, -, hvi, hvworks⟩ := Keypair.exists_issuer
  have hread : Keypair.read "0000000000000000000000000000000000000000000000000000000000000001" = .ok k := by
    obtain ⟨l, hl, hread⟩ : ∃ l : Keypair, l.secret = 1 ∧
      Keypair.read "0000000000000000000000000000000000000000000000000000000000000001" = .ok l := ⟨_, rfl, rfl⟩
    rw [hread, Keypair.ext_secret (hl.trans hsecret.symm)]
  let t : Transaction := ⟨none, "2.0", .create, .data none, none, [⟨[], none, none⟩], []⟩
  let u : Transaction := { t with inputs := [⟨[], none, none⟩, ⟨["x", "y"], none, none⟩] }
  have hunowned : ∀ owner ∈ ["x", "y"], k.owns owner = false := by
    -- no first letter is that of the mark
    have hfirst : ∀ owner ∈ ["x", "y"], (asciiLower (trim owner)).toList.head? ≠ some '0' := by decide
    intro owner howner
    rw [← Bool.not_eq_true]
    intro howns
    obtain ⟨rest, hrest⟩ := Keypair.mark_of_owns howns
    exact hfirst owner howner (by rw [hrest]; rfl)
  -- no key is asked for a signature, so none fails
  have hworks : ∀ v : Transaction, (∀ owner ∈ v.owners, owner ∈ ["x", "y"]) → SignerWorks [k] v := by
    intro v hv i hi owner howner k' hk' howns
    obtain rfl := List.mem_singleton.1 hk'
    rw [hunowned owner (hv owner (List.mem_flatMap.2 ⟨i, hi, howner⟩))] at howns
    cases howns
  have hdistinct : Keypair.DistinctAccounts [k, k] := by
    intro a ha b hb _
    simp_all
  have hvo : v.owners = [k.publicKey] := by simp [owners, hvi]
  have hcovered : Keypair.firstUnowned? [k] v.owners = none := by
    rw [hvo, Keypair.firstUnowned?_eq_none]
    exact List.forall_mem_singleton.2 ⟨k, List.mem_singleton.2 rfl, k.owns_publicKey⟩
  obtain ⟨ht, htkeys, -, htexts⟩ := sign_by_owners t
  obtain ⟨hu, -, hubad, -⟩ := sign_by_owners u
  obtain ⟨hv, -, -, hvtexts⟩ := sign_by_owners v
  obtain ⟨s, hs, hsigned⟩ := ((ht [k]).2.2.2 (hworks t nofun) nofun).2 rfl
  obtain ⟨w, hw, -⟩ := ((hv [k]).2.2.2 hvworks nofun).2 hcovered
  refine ⟨k, t, u, s, v, w, hsecret, rfl, (hu []).1.2 rfl, ?_, hs, ?_, ?_, ?_, ?_, hvo, hw,
    fulfillments_of_sign hw hvi rfl, ?_⟩
  · refine (((hu [k]).2.2.2 (hworks u (by simp [owners, u])) nofun).1 "x").2 ?_
    simp [Keypair.firstUnowned?, owners, u, hunowned]
  · rw [SignedBy] at hsigned
    generalize s.inputs = signed at hsigned
    rcases hsigned with _ | ⟨⟨signatures, hj, hall, -⟩, hnil⟩
    cases hall
    cases hnil
    simp [hj]
  · exact (htkeys [k] [k, k] hdistinct).2 (by simp) s hs
  · rw [htexts _ [k] (.cons hread .nil), hs]
  · exact hubad [_] "1" ["22"] _ (by simpa using ⟨k, hread⟩) rfl
  · rw [hvtexts _ [k] (.cons hread .nil), hw]

end Transaction
end FederatedLedger
