import FederatedLedger.Proofs.LedgerForms

/-!
# Proper JSON, and what is read of a text

A JSON value is proper if its doubles are finite and no object in it names a member twice (`Json.Proper`). A literal
that is out of range has no value (`Literal.isFinite_of_value?`), and what holds of the value of every literal holds of
the numbers of a document that was read (`Document.numbersPass_of_parse?`). From the numbers it comes to the values in
the free-form data of a transaction (`Transaction.all_of_read?`).
-/

namespace FederatedLedger

/-- The doubles in the value are finite, and no object in it names a member twice. -/
structure Json.Proper (v : Json) : Prop where
  finite : v.isFinite = true
  names : v.hasDistinctNames = true

/-! ## Numbers -/

namespace Binary64

theorem magnitude_ofMagnitude {negative : Bool} {m : Nat} (h : m < signBit) :
    (ofMagnitude negative m).magnitude = m := by
  simp only [signBit] at h
  unfold magnitude ofMagnitude
  simp only [signBit, UInt64.toNat_ofNat']
  split <;> omega

theorem isFinite_neg (x : Binary64) : x.neg.isFinite = x.isFinite := by
  have h : x.magnitude < signBit := Nat.mod_lt _ (by decide)
  rw [neg, isFinite, isFinite, magnitude_ofMagnitude h]

theorem lastBit_one {n : Nat} (h : n ≠ 0) : lastBit n 1 = max ((n.log2 : Int) - 52) (-1074) := by
  have hlog : Nat.log2 1 = 0 := by decide
  have hle : 1 * Nat.pow 2 n.log2 ≤ n * 1 := by
    rw [Nat.one_mul, Nat.mul_one]; exact Nat.log2_self_le h
  simp only [lastBit, hlog, scale, Int.natCast_zero, Int.sub_zero, Int.natCast_nonneg, if_true, Int.toNat_natCast]
  rw [if_pos hle]

theorem roundHalfEven_le (num den : Nat) : roundHalfEven num den ≤ num / den + 1 := by
  unfold roundHalfEven
  dsimp only
  split
  · omega
  · split
    · omega
    · split <;> omega

/-- 53 bits are kept of a number, and rounding can make them `2 ^ 53`. -/
theorem significand_le (n : Nat) :
    (if 0 ≤ (n.log2 : Int) - 52 then roundHalfEven n (1 * Nat.pow 2 ((n.log2 : Int) - 52).toNat)
      else roundHalfEven (n * Nat.pow 2 (-((n.log2 : Int) - 52)).toNat) 1) ≤ 2 * leadingBit := by
  have hlt : n < 2 ^ (n.log2 + 1) := Nat.lt_log2_self
  by_cases hbig : 52 ≤ n.log2
  · obtain ⟨k, hk⟩ := Nat.exists_eq_add_of_le hbig
    rw [if_pos (by omega), show ((n.log2 : Int) - 52).toNat = k by omega]
    refine Nat.le_trans (roundHalfEven_le _ _) (Nat.div_lt_of_lt_mul ?_)
    calc n < 2 ^ (n.log2 + 1) := hlt
      _ = 1 * Nat.pow 2 k * (2 * leadingBit) := by
        rw [hk, show 52 + k + 1 = k + 53 by omega, Nat.pow_add, Nat.one_mul]; rfl
  · obtain ⟨k, hk⟩ := Nat.exists_eq_add_of_le (Nat.le_of_not_le hbig)
    rw [if_neg (by omega), show (-((n.log2 : Int) - 52)).toNat = k by omega]
    refine Nat.le_trans (roundHalfEven_le _ _) (Nat.div_lt_of_lt_mul ?_)
    calc n * Nat.pow 2 k < 2 ^ (n.log2 + 1) * 2 ^ k := Nat.mul_lt_mul_of_pos_right hlt (Nat.two_pow_pos k)
      _ = 1 * (2 * leadingBit) := by
        rw [← Nat.pow_add, show n.log2 + 1 + k = 53 by omega]; rfl

/-- Whole numbers of 64 bits are in the range of doubles. -/
theorem isFinite_roundRatio {n : Nat} (h : n < UInt64.size) (negative : Bool) :
    (roundRatio negative n 1).isFinite = true := by
  rw [roundRatio]
  by_cases hn : n = 0
  · rw [if_pos hn]; cases negative <;> rfl
  · rw [if_neg hn, lastBit_one hn]
    have hlog : n.log2 < 64 := (Nat.log2_lt hn).2 h
    have hq := significand_le n
    dsimp only
    rw [Int.max_eq_left (by omega)]
    generalize (if 0 ≤ (n.log2 : Int) - 52 then roundHalfEven n (1 * Nat.pow 2 ((n.log2 : Int) - 52).toNat)
      else roundHalfEven (n * Nat.pow 2 (-((n.log2 : Int) - 52)).toNat) 1) = q at hq ⊢
    have hfield : ((n.log2 : Int) - 52 + 1074).toNat ≤ 1085 := by omega
    have hmagnitude : ((n.log2 : Int) - 52 + 1074).toNat * leadingBit + q < infinityBits := by
      calc _ ≤ 1085 * leadingBit + 2 * leadingBit := Nat.add_le_add (Nat.mul_le_mul_right _ hfield) hq
        _ < infinityBits := by decide
    rw [if_pos hmagnitude, isFinite, magnitude_ofMagnitude (Nat.lt_trans hmagnitude (by decide))]
    exact decide_eq_true hmagnitude

theorem isFinite_ofNat {n : Nat} (h : n < UInt64.size) : (ofNat n).isFinite = true := isFinite_roundRatio h false

theorem isFinite_ofInt {n : Int} (h : n.natAbs < UInt64.size) : (ofInt n).isFinite = true := isFinite_roundRatio h _

end Binary64

namespace Literal

theorem takeDigits_lt (cs : List Char) : ∀ {n : Nat}, n < UInt64.size → (takeDigits n cs).1 < UInt64.size := by
  induction cs with
  | nil => exact fun h => h
  | cons c cs ih =>
    intro n h
    rw [takeDigits]
    split
    · rename_i hfits
      exact ih hfits
    · exact h

theorem isFinite_of_float? {l : Literal} {x : Binary64} (h : l.float? = some x) : x.isFinite = true := by
  unfold float? at h
  dsimp only at h
  split at h
  · rename_i hfinite
    obtain rfl := Option.some.inj h
    split
    · rw [Binary64.isFinite_neg]; exact hfinite
    · exact hfinite
  · cases h

/-- A literal that is out of range has no value, so the value of a literal is finite. -/
theorem isFinite_of_value? {l : Literal} {n : Number} (h : l.value? = some n) : n.isFinite = true := by
  unfold value? at h
  split at h
  · rename_i m htake _ _
    have hm : m < UInt64.size := by
      have := takeDigits_lt l.whole (n := 0) (by decide)
      rwa [htake] at this
    split at h
    · cases h; rfl
    · split at h
      · cases h; rfl
      · cases h
        rw [Number.isFinite, Binary64.isFinite_neg]
        exact Binary64.isFinite_ofNat hm
  · obtain ⟨x, hx, rfl⟩ := Option.map_eq_some_iff.1 h
    exact isFinite_of_float? hx

end Literal

/-! ## Documents -/

namespace Document

mutual

/-- Whether all numbers of the document pass a test, as far as they have a value. -/
def numbersPass (p : Number → Bool) : Document → Bool
  | .number n => n.all p
  | .array items => itemNumbersPass p items
  | .object members => memberNumbersPass p members
  | _ => true

def itemNumbersPass (p : Number → Bool) : List Document → Bool
  | [] => true
  | d :: rest => d.numbersPass p && itemNumbersPass p rest

def memberNumbersPass (p : Number → Bool) : List (Option String × Document) → Bool
  | [] => true
  | (_, d) :: rest => d.numbersPass p && memberNumbersPass p rest

end

section
variable {p : Number → Bool}

mutual

/-- What holds of the value of every literal holds of the numbers that are read. -/
theorem numbersPass_of_parseValue (hp : ∀ (l : Literal) n, l.value? = some n → p n = true) :
    ∀ {fuel : Nat} {cs r : List Char} {d : Document}, parseValue fuel cs = some (d, r) → d.numbersPass p = true
  | 0, _, _, _, h => by cases h
  | fuel + 1, cs, r, d, h => by
    unfold parseValue at h
    split at h
    · obtain ⟨_, -, heq⟩ := Option.map_eq_some_iff.1 h
      cases heq; rfl
    · split at h
      · cases h; rfl
      · obtain ⟨_, hitems, heq⟩ := Option.map_eq_some_iff.1 h
        cases heq
        exact itemNumbersPass_of_parseItems hp hitems
    · split at h
      · cases h; rfl
      · obtain ⟨_, hmembers, heq⟩ := Option.map_eq_some_iff.1 h
        cases heq
        exact memberNumbersPass_of_parseMembers hp hmembers
    · obtain ⟨_, -, heq⟩ := Option.map_eq_some_iff.1 h
      cases heq; rfl
    · obtain ⟨_, -, heq⟩ := Option.map_eq_some_iff.1 h
      cases heq; rfl
    · obtain ⟨_, -, heq⟩ := Option.map_eq_some_iff.1 h
      cases heq; rfl
    · obtain ⟨⟨l, _⟩, -, heq⟩ := Option.map_eq_some_iff.1 h
      cases heq
      cases hn : l.value? with
      | none => rfl
      | some n => exact hp l n hn

theorem itemNumbersPass_of_parseItems (hp : ∀ (l : Literal) n, l.value? = some n → p n = true) :
    ∀ {fuel : Nat} {cs r : List Char} {items : List Document}, parseItems fuel cs = some (items, r) →
    itemNumbersPass p items = true
  | 0, _, _, _, h => by cases h
  | fuel + 1, cs, r, items, h => by
    unfold parseItems at h
    obtain ⟨⟨d, r'⟩, hd, h⟩ := Option.bind_eq_some_iff.1 h
    have hitem := numbersPass_of_parseValue hp hd
    dsimp only at h
    split at h
    · cases h
      exact Bool.and_eq_true_iff.2 ⟨hitem, rfl⟩
    · obtain ⟨⟨rest, r''⟩, hrest, h⟩ := Option.bind_eq_some_iff.1 h
      cases h
      exact Bool.and_eq_true_iff.2 ⟨hitem, itemNumbersPass_of_parseItems hp hrest⟩
    · cases h

theorem memberNumbersPass_of_parseMembers (hp : ∀ (l : Literal) n, l.value? = some n → p n = true) :
    ∀ {fuel : Nat} {cs r : List Char} {members : List (Option String × Document)},
    parseMembers fuel cs = some (members, r) → memberNumbersPass p members = true
  | 0, _, _, _, h => by cases h
  | fuel + 1, cs, r, members, h => by
    unfold parseMembers at h
    split at h
    · obtain ⟨⟨key, r'⟩, -, h⟩ := Option.bind_eq_some_iff.1 h
      dsimp only at h
      split at h
      · obtain ⟨⟨d, r''⟩, hd, h⟩ := Option.bind_eq_some_iff.1 h
        have hvalue := numbersPass_of_parseValue hp hd
        dsimp only at h
        split at h
        · cases h
          exact Bool.and_eq_true_iff.2 ⟨hvalue, rfl⟩
        · obtain ⟨⟨rest, r3⟩, hrest, h⟩ := Option.bind_eq_some_iff.1 h
          cases h
          exact Bool.and_eq_true_iff.2 ⟨hvalue, memberNumbersPass_of_parseMembers hp hrest⟩
        · cases h
      · cases h
    · cases h

end

theorem numbersPass_of_parse? (hp : ∀ (l : Literal) n, l.value? = some n → p n = true) {text : String} {d : Document}
    (h : parse? text = some d) : d.numbersPass p = true := by
  obtain ⟨⟨d', r⟩, hd, h⟩ := Option.bind_eq_some_iff.1 h
  obtain ⟨-, -, h⟩ := Option.bind_eq_some_iff.1 h
  cases h
  exact numbersPass_of_parseValue hp hd

end

/-! ## Their values -/

/-- The second test passes every value that is read, itself, if the first one passes its number. -/
structure Yields (p : Number → Bool) (q : Json → Bool) : Prop where
  null : q .null = true
  bool : ∀ b, q (.bool b) = true
  number : ∀ n, p n = true → q (.number n) = true
  string : ∀ s, q (.string s) = true
  array : ∀ items, q (.array items) = true
  object : ∀ members, q (.object (Entries.ordered members)) = true

section
variable {p : Number → Bool} {q : Json → Bool}

mutual

/-- What a test says of the numbers of a document, another one says of all values in the document's value. -/
theorem all_of_value? (hq : Yields p q) : ∀ {d : Document} {room : Nat} {v : Json}, d.numbersPass p = true →
    d.value? room = some v → v.all q = true
  | .null, _, _, _, h => by cases h; exact hq.null
  | .bool b, _, _, _, h => by cases h; exact hq.bool b
  | .number n, _, _, hd, h => by
    obtain ⟨n, rfl, rfl⟩ := Option.map_eq_some_iff.1 h
    exact hq.number n hd
  | .string s, _, _, _, h => by
    obtain ⟨s, rfl, rfl⟩ := Option.map_eq_some_iff.1 h
    exact hq.string s
  | .array items, room, _, hd, h => by
    unfold value? at h
    split at h
    · cases h
    · obtain ⟨vs, hvs, rfl⟩ := Option.map_eq_some_iff.1 h
      exact Bool.and_eq_true_iff.2 ⟨hq.array vs, Json.allItems_iff.2 (all_of_itemValues? hq hd hvs)⟩
  | .object members, room, _, hd, h => by
    unfold value? at h
    split at h
    · cases h
    · obtain ⟨ms, hms, rfl⟩ := Option.map_eq_some_iff.1 h
      have hmembers := all_of_memberValues? hq hd hms
      refine Bool.and_eq_true_iff.2 ⟨hq.object ms, Json.allMembers_iff.2 fun m hm => ?_⟩
      exact hmembers m (Entries.mem_of_mem_ordered hm)

theorem all_of_itemValues? (hq : Yields p q) : ∀ {ds : List Document} {room : Nat} {vs : List Json},
    itemNumbersPass p ds = true → itemValues? room ds = some vs → ∀ v ∈ vs, v.all q = true
  | [], _, _, _, h => by cases h; exact nofun
  | d :: ds, room, _, hd, h => by
    obtain ⟨hd, hds⟩ := Bool.and_eq_true_iff.1 hd
    obtain ⟨v, hv, h⟩ := Option.bind_eq_some_iff.1 h
    obtain ⟨vs, hvs, h⟩ := Option.bind_eq_some_iff.1 h
    cases h
    exact List.forall_mem_cons.2 ⟨all_of_value? hq hd hv, all_of_itemValues? hq hds hvs⟩

theorem all_of_memberValues? (hq : Yields p q) : ∀ {ds : List (Option String × Document)} {room : Nat}
    {ms : List (String × Json)}, memberNumbersPass p ds = true → memberValues? room ds = some ms →
    ∀ m ∈ ms, m.2.all q = true
  | [], _, _, _, h => by cases h; exact nofun
  | (k, d) :: ds, room, _, hd, h => by
    obtain ⟨hd, hds⟩ := Bool.and_eq_true_iff.1 hd
    obtain ⟨key, -, h⟩ := Option.bind_eq_some_iff.1 h
    obtain ⟨v, hv, h⟩ := Option.bind_eq_some_iff.1 h
    obtain ⟨ms, hms, h⟩ := Option.bind_eq_some_iff.1 h
    cases h
    exact List.forall_mem_cons.2 ⟨all_of_value? hq hd hv, all_of_memberValues? hq hds hms⟩

end

end

/-! ## Fields -/

section
variable {p : Number → Bool} {names : List String} {room : Nat} {d : Document}

theorem itemNumbersPass_iff {ds : List Document} : itemNumbersPass p ds = true ↔ ∀ d ∈ ds, d.numbersPass p = true := by
  induction ds with
  | nil => simp [itemNumbersPass]
  | cons d ds ih => simp [itemNumbersPass, ih]

theorem numbersPass_of_members? {ms : List (String × Document)} (hd : d.numbersPass p = true)
    (h : d.members? room = some ms) : ∀ m ∈ ms, m.2.numbersPass p = true := by
  cases d with
  | object members =>
    have hmembers : memberNumbersPass p members = true := hd
    by_cases hroom : room = 0
    · rw [members?, if_pos hroom] at h; cases h
    · rw [members?, if_neg hroom] at h
      clear hd
      induction members generalizing ms with
      | nil => cases h; exact nofun
      | cons m members ih =>
        obtain ⟨k, d⟩ := m
        obtain ⟨hd, hrest⟩ := Bool.and_eq_true_iff.1 hmembers
        rw [List.mapM_cons] at h
        obtain ⟨e, he, h⟩ := Option.bind_eq_some_iff.1 h
        obtain ⟨es, hes, h⟩ := Option.bind_eq_some_iff.1 h
        obtain ⟨key, rfl, rfl⟩ := Option.map_eq_some_iff.1 he
        cases h
        exact List.forall_mem_cons.2 ⟨hd, ih hes hrest⟩
  | _ => cases h

theorem numbersPass_of_namedRecord? {r : Record} (hd : d.numbersPass p = true)
    (h : d.namedRecord? names room = some r) : ∀ f ∈ r.fields, f.2.numbersPass p = true := by
  obtain ⟨ms, hms, h⟩ := Option.bind_eq_some_iff.1 h
  obtain ⟨-, -, h⟩ := Option.bind_eq_some_iff.1 h
  cases h
  exact fun f hf => numbersPass_of_members? hd hms f (List.mem_of_mem_filter hf)

theorem numbersPass_of_record? {r : Record} (hd : d.numbersPass p = true) (h : d.record? names room = some r) :
    ∀ f ∈ r.fields, f.2.numbersPass p = true := by
  unfold record? at h
  split at h
  · split at h
    · cases h
    · cases h
      exact fun f hf => itemNumbersPass_iff.1 hd _ (List.of_mem_zip hf).2
  · exact numbersPass_of_namedRecord? hd h

end

end Document

theorem Document.read_of_optional? {α : Type} {d : Document} {f : Document → Option α} {a : α}
    (h : d.optional? f = some (some a)) : f d = some a := by
  unfold optional? at h
  split at h
  · cases h
  · obtain ⟨a', ha, heq⟩ := Option.map_eq_some_iff.1 h
    cases heq
    exact ha

namespace Record
variable {α : Type} {r : Record} {name : String} {f : Document → Option α} {a : α}

theorem read_of_required? (h : r.required? name f = some a) : ∃ e ∈ r.fields, f e.2 = some a := by
  obtain ⟨d, hd, ha⟩ := Option.bind_eq_some_iff.1 h
  exact ⟨_, Entries.mem_of_lookup hd, ha⟩

theorem read_of_optional? (h : r.optional? name f = some (some a)) : ∃ e ∈ r.fields, f e.2 = some a := by
  unfold optional? at h
  split at h
  · rename_i d hd
    exact ⟨_, Entries.mem_of_lookup hd, Document.read_of_optional? h⟩
  · split at h <;> cases h

end Record

/-! ## Transactions -/

section
variable {p : Number → Bool} {q : Json → Bool} {d : Document} {room : Nat}

theorem Asset.all_of_read? (hq : Document.Yields p q) {a : Asset} (hd : d.numbersPass p = true)
    (h : Asset.read? room d = some a) : a.content.all q = true := by
  obtain ⟨-, -, h⟩ := Option.bind_eq_some_iff.1 h
  rcases (Option.orElse_eq_some _ _ _).1 h with h | ⟨-, h⟩
  · obtain ⟨r, -, h⟩ := Option.bind_eq_some_iff.1 h
    obtain ⟨id, -, h⟩ := Option.bind_eq_some_iff.1 h
    cases h
    exact hq.null
  · obtain ⟨r, hr, h⟩ := Option.bind_eq_some_iff.1 h
    obtain ⟨content, hcontent, h⟩ := Option.bind_eq_some_iff.1 h
    cases h
    cases content with
    | none => exact hq.null
    | some v =>
      obtain ⟨f, hf, hv⟩ := Record.read_of_optional? hcontent
      exact Document.all_of_value? hq (Document.numbersPass_of_namedRecord? hd hr f hf) hv

/-- What is said of the free-form data of a transaction that is read. -/
theorem Transaction.all_of_read? (hq : Document.Yields p q) {t : Transaction} (hd : d.numbersPass p = true)
    (h : Transaction.read? room d = some t) : t.asset.content.all q = true ∧ (t.metadata.getD .null).all q = true := by
  obtain ⟨r, hr, h⟩ := Option.bind_eq_some_iff.1 h
  have hfields := Document.numbersPass_of_record? hd hr
  obtain ⟨id, -, h⟩ := Option.bind_eq_some_iff.1 h
  obtain ⟨version, -, h⟩ := Option.bind_eq_some_iff.1 h
  obtain ⟨operation, -, h⟩ := Option.bind_eq_some_iff.1 h
  obtain ⟨asset, hasset, h⟩ := Option.bind_eq_some_iff.1 h
  obtain ⟨metadata, hmetadata, h⟩ := Option.bind_eq_some_iff.1 h
  obtain ⟨inputs, -, h⟩ := Option.bind_eq_some_iff.1 h
  obtain ⟨outputs, -, h⟩ := Option.bind_eq_some_iff.1 h
  cases h
  constructor
  · obtain ⟨f, hf, ha⟩ := Record.read_of_required? hasset
    exact Asset.all_of_read? hq (hfields f hf) ha
  · cases metadata with
    | none => exact hq.null
    | some v =>
      obtain ⟨f, hf, hv⟩ := Record.read_of_optional? hmetadata
      exact Document.all_of_value? hq (hfields f hf) hv

end

namespace Transaction
variable {t : Transaction}

theorem isProper_iff_proper : t.isProper = true ↔ t.asset.content.Proper ∧ (t.metadata.getD .null).Proper := by
  rw [isProper_iff]
  exact ⟨fun ⟨⟨h, h'⟩, k, k'⟩ => ⟨⟨h, h'⟩, k, k'⟩, fun ⟨h, k⟩ => ⟨⟨h.finite, h.names⟩, k.finite, k.names⟩⟩

end Transaction
end FederatedLedger
