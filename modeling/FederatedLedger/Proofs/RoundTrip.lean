import FederatedLedger.Proofs.Decoding
import FederatedLedger.Proofs.Identity

/-!
# Transactions in JSON and back

A transaction is read from its own text again (`Transaction.parse?_text`), and what is read from any text, whatever else
stands in it, is a transaction whose own text gives it again (`Transaction.text_round_trip`). The first needs that the
text is not too deep. The second needs no such condition: every reader gives back no more levels than it was allowed
(`OutputLink.depth_of_read?` and so on), so what is read can be written and read again.

Doubles are the exception. One that is printed can be read as its neighbour, so both ask that the doubles of the
free-form data are read as they are printed (`Json.isExact`); all else of what is read holds by itself (`Json.Held`).
-/

namespace FederatedLedger

/-! ## Numbers -/

/-- Whether a JSON value holds such a number: an integer of 64 bits, or a finite double. -/
def Number.inRange : Number → Bool
  | .int n => Int64.minValue.toInt ≤ n && n < UInt64.size
  | .float x => x.isFinite

/-- Whether a double is read as it was printed. -/
def Number.isExact : Number → Bool
  | .int _ => true
  | .float x => (Number.float x).literal.value? = some (.float x)

theorem Number.isStable_of_isExact {n : Number} (hn : n.inRange = true) (h : n.isExact = true) : n.isStable = true := by
  cases n with
  | int n => exact hn
  | float x => exact h

theorem Number.isFinite_of_inRange {n : Number} (h : n.inRange = true) : n.isFinite = true := by
  cases n with
  | int n => rfl
  | float x => exact h

/-- A literal stands for a number in range. -/
theorem Literal.inRange_of_value? {l : Literal} {n : Number} (h : l.value? = some n) : n.inRange = true := by
  have hfinite := isFinite_of_value? h
  cases n with
  | float x => exact hfinite
  | int n =>
    refine Number.isStable_int_iff.2 ?_
    have hmin : Int64.minValue.toInt = -9223372036854775808 := by decide
    unfold value? at h
    split at h
    · rename_i m htake _ _
      have hm : m < UInt64.size := by
        have := takeDigits_lt l.whole (n := 0) (by decide)
        rwa [htake] at this
      have hm : (m : Int) < 18446744073709551616 := Int.ofNat_lt.2 hm
      split at h
      · cases h
        omega
      · split at h
        · rename_i hneg
          rw [hmin] at hneg
          cases h
          omega
        · cases h
    · obtain ⟨x, -, hx⟩ := Option.map_eq_some_iff.1 h
      cases hx

/-! ## Values -/

namespace Json
variable {v : Json} {p q : Json → Bool}

/-- A test of the number that a value itself is, if it is one. -/
def ofNumber (p : Number → Bool) : Json → Bool
  | .number n => p n
  | _ => true

/-- A value as programs hold it: members in the order of their names, and numbers in range. -/
structure Held (v : Json) : Prop where
  ordered : v.isOrdered = true
  inRange : v.all (ofNumber Number.inRange) = true

instance (v : Json) : Decidable v.Held :=
  decidable_of_iff (v.isOrdered = true ∧ v.all (ofNumber Number.inRange) = true)
    ⟨fun ⟨ordered, inRange⟩ => ⟨ordered, inRange⟩, fun h => ⟨h.ordered, h.inRange⟩⟩

/-- Whether the doubles in the value are read as they are printed. -/
def isExact : Json → Bool := all (ofNumber Number.isExact)

mutual

theorem all_and : ∀ {v : Json}, v.all p = true → v.all q = true → v.all (fun w => p w && q w) = true
  | .null, hp, hq | .bool _, hp, hq | .number _, hp, hq | .string _, hp, hq => Bool.and_eq_true_iff.2 ⟨hp, hq⟩
  | .array items, hp, hq => by
    obtain ⟨hp, hps⟩ := Bool.and_eq_true_iff.1 hp
    obtain ⟨hq, hqs⟩ := Bool.and_eq_true_iff.1 hq
    exact Bool.and_eq_true_iff.2 ⟨Bool.and_eq_true_iff.2 ⟨hp, hq⟩, allItems_and hps hqs⟩
  | .object members, hp, hq => by
    obtain ⟨hp, hps⟩ := Bool.and_eq_true_iff.1 hp
    obtain ⟨hq, hqs⟩ := Bool.and_eq_true_iff.1 hq
    exact Bool.and_eq_true_iff.2 ⟨Bool.and_eq_true_iff.2 ⟨hp, hq⟩, allMembers_and hps hqs⟩

theorem allItems_and : ∀ {items : List Json}, allItems p items = true → allItems q items = true →
    allItems (fun w => p w && q w) items = true
  | [], _, _ => rfl
  | _ :: _, hp, hq => by
    obtain ⟨hp, hps⟩ := Bool.and_eq_true_iff.1 hp
    obtain ⟨hq, hqs⟩ := Bool.and_eq_true_iff.1 hq
    exact Bool.and_eq_true_iff.2 ⟨all_and hp hq, allItems_and hps hqs⟩

theorem allMembers_and : ∀ {members : List (String × Json)}, allMembers p members = true →
    allMembers q members = true → allMembers (fun w => p w && q w) members = true
  | [], _, _ => rfl
  | (_, _) :: _, hp, hq => by
    obtain ⟨hp, hps⟩ := Bool.and_eq_true_iff.1 hp
    obtain ⟨hq, hqs⟩ := Bool.and_eq_true_iff.1 hq
    exact Bool.and_eq_true_iff.2 ⟨all_and hp hq, allMembers_and hps hqs⟩

end

/-- A value that is held is read as it was written if its doubles are. -/
theorem Held.faithful (h : v.Held) (hexact : v.isExact = true) : v.Faithful := by
  refine ⟨h.ordered, all_mono (fun w hw => ?_) (all_and h.inRange hexact)⟩
  obtain ⟨hrange, hexact⟩ := Bool.and_eq_true_iff.1 hw
  cases w with
  | number n => exact Number.isStable_of_isExact hrange hexact
  | _ => rfl

theorem Held.proper (h : v.Held) : v.Proper where
  finite := all_mono (fun w hw => by cases w <;> first | rfl | exact Number.isFinite_of_inRange hw) h.inRange
  names := by
    refine all_mono (fun w hw => ?_) h.ordered
    cases w with
    | object members =>
      have hascending : Entries.Ascending members := of_decide_eq_true hw
      exact decide_eq_true hascending.nodup
    | _ => rfl

end Json

namespace Document

theorem yields_namesAscend (p : Number → Bool) : Yields p Json.namesAscend :=
  ⟨rfl, fun _ => rfl, fun _ _ => rfl, fun _ => rfl, fun _ => rfl, fun ms => decide_eq_true (Entries.ascending_ordered ms)⟩

theorem yields_inRange : Yields Number.inRange (Json.ofNumber Number.inRange) :=
  ⟨rfl, fun _ => rfl, fun _ h => h, fun _ => rfl, fun _ => rfl, fun _ => rfl⟩

/-! ## Depth -/

mutual

/-- A value nests no deeper than its reader allowed. -/
theorem depth_of_value? : ∀ {d : Document} {room : Nat} {v : Json}, d.value? room = some v → v.depth ≤ room
  | .null, _, _, h => by cases h; exact Nat.zero_le _
  | .bool _, _, _, h => by cases h; exact Nat.zero_le _
  | .number n, _, _, h => by
    obtain ⟨n, -, rfl⟩ := Option.map_eq_some_iff.1 h
    exact Nat.zero_le _
  | .string s, _, _, h => by
    obtain ⟨s, -, rfl⟩ := Option.map_eq_some_iff.1 h
    exact Nat.zero_le _
  | .array items, room, _, h => by
    unfold value? at h
    split at h
    · cases h
    · obtain ⟨vs, hvs, rfl⟩ := Option.map_eq_some_iff.1 h
      have hitems := Json.depthItems_le_iff.2 (depth_of_itemValues? hvs)
      rw [Json.depth]
      omega
  | .object members, room, _, h => by
    unfold value? at h
    split at h
    · cases h
    · obtain ⟨ms, hms, rfl⟩ := Option.map_eq_some_iff.1 h
      have hmembers : Json.depthMembers (Entries.ordered ms) ≤ room - 1 := Json.depthMembers_le_iff.2 fun m hm =>
        depth_of_memberValues? hms m (Entries.mem_of_mem_ordered hm)
      rw [Json.depth]
      omega

theorem depth_of_itemValues? : ∀ {ds : List Document} {room : Nat} {vs : List Json}, itemValues? room ds = some vs →
    ∀ v ∈ vs, v.depth ≤ room
  | [], _, _, h => by cases h; exact nofun
  | d :: ds, room, _, h => by
    obtain ⟨v, hv, h⟩ := Option.bind_eq_some_iff.1 h
    obtain ⟨vs, hvs, h⟩ := Option.bind_eq_some_iff.1 h
    cases h
    exact List.forall_mem_cons.2 ⟨depth_of_value? hv, depth_of_itemValues? hvs⟩

theorem depth_of_memberValues? : ∀ {ds : List (Option String × Document)} {room : Nat} {ms : List (String × Json)},
    memberValues? room ds = some ms → ∀ m ∈ ms, m.2.depth ≤ room
  | [], _, _, h => by cases h; exact nofun
  | (k, d) :: ds, room, _, h => by
    obtain ⟨key, -, h⟩ := Option.bind_eq_some_iff.1 h
    obtain ⟨v, hv, h⟩ := Option.bind_eq_some_iff.1 h
    obtain ⟨ms, hms, h⟩ := Option.bind_eq_some_iff.1 h
    cases h
    exact List.forall_mem_cons.2 ⟨depth_of_value? hv, depth_of_memberValues? hms⟩

end

section
variable {d : Document} {names : List String} {room : Nat} {r : Record}

/-- Fields are read where there is room for an object. -/
theorem room_of_namedRecord? (h : d.namedRecord? names room = some r) : ∃ n, room = n + 1 := by
  cases room with
  | succ n => exact ⟨n, rfl⟩
  | zero =>
    obtain ⟨ms, hms, -⟩ := Option.bind_eq_some_iff.1 h
    cases d <;> cases hms

theorem room_of_record? (h : d.record? names room = some r) : ∃ n, room = n + 1 := by
  cases room with
  | succ n => exact ⟨n, rfl⟩
  | zero =>
    cases d with
    | array items => simp [record?] at h
    | _ => exact room_of_namedRecord? h

/-- A list is read where there is room for an array, item by item. -/
theorem list?_eq_some {α : Type} {f : Nat → Document → Option α} {as : List α} (h : list? f room d = some as) :
    ∃ n, room = n + 1 ∧ ∀ a ∈ as, ∃ e, f n e = some a := by
  cases d with
  | array items =>
    cases room with
    | zero => cases h
    | succ n =>
      rw [list?, if_neg (Nat.succ_ne_zero n), Nat.succ_sub_one] at h
      refine ⟨n, rfl, ?_⟩
      induction items generalizing as with
      | nil => cases h; exact nofun
      | cons e items ih =>
        rw [List.mapM_cons] at h
        obtain ⟨a, ha, h⟩ := Option.bind_eq_some_iff.1 h
        obtain ⟨rest, hrest, h⟩ := Option.bind_eq_some_iff.1 h
        cases h
        exact List.forall_mem_cons.2 ⟨⟨e, ha⟩, ih hrest⟩
  | _ => cases h

theorem depth_of_strings? {ss : List String} (h : d.strings? room = some ss) : (Json.ofStrings ss).depth ≤ room := by
  obtain ⟨n, rfl, -⟩ := list?_eq_some h
  exact Json.depth_list_le_iff.2 fun _ _ => Nat.zero_le n

end

end Document

theorem Record.read_of_defaulted? {α : Type} {r : Record} {name : String} {f : Document → Option α} {a x : α}
    (h : r.defaulted? name a f = some x) : x = a ∨ ∃ e ∈ r.fields, f e.2 = some x := by
  unfold defaulted? at h
  split at h
  · rename_i d hd
    exact .inr ⟨_, Entries.mem_of_lookup hd, h⟩
  · exact .inl (Option.some.inj h).symm

variable {d : Document} {room : Nat}

theorem OutputLink.depth_of_read? {l : OutputLink} (h : OutputLink.read? room d = some l) : l.toJson.depth ≤ room := by
  obtain ⟨r, hr, -⟩ := Option.bind_eq_some_iff.1 h
  obtain ⟨n, rfl⟩ := Document.room_of_record? hr
  refine Json.depth_object_le_iff.2 ?_
  simp only [List.forall_mem_cons, List.not_mem_nil, false_implies, implies_true, and_true]
  exact ⟨Nat.zero_le n, Nat.zero_le n⟩

theorem Input.depth_of_read? {i : Input} (h : Input.read? room d = some i) : i.toJson.depth ≤ room := by
  obtain ⟨r, hr, h⟩ := Option.bind_eq_some_iff.1 h
  obtain ⟨n, rfl⟩ := Document.room_of_record? hr
  obtain ⟨owners, howners, h⟩ := Option.bind_eq_some_iff.1 h
  obtain ⟨link, hlink, h⟩ := Option.bind_eq_some_iff.1 h
  obtain ⟨signature, -, h⟩ := Option.bind_eq_some_iff.1 h
  cases h
  refine Json.depth_object_le_iff.2 ?_
  simp only [List.forall_mem_cons, List.not_mem_nil, false_implies, implies_true, and_true]
  refine ⟨?_, ?_, ?_⟩
  · obtain ⟨e, -, he⟩ := Record.read_of_required? howners
    exact Document.depth_of_strings? he
  · cases link with
    | none => exact Nat.zero_le n
    | some l =>
      obtain ⟨e, -, he⟩ := Record.read_of_optional? hlink
      exact OutputLink.depth_of_read? he
  · cases signature <;> exact Nat.zero_le n

namespace ConditionDetails

theorem listToJson_eq (cs : List ConditionDetails) : listToJson cs = cs.map toJson := by
  induction cs with
  | nil => rfl
  | cons c cs ih => rw [listToJson, ih, List.map_cons]

/-- The conditions in a condition are none, or read. -/
theorem subconditions_of_readFields? {subconditions? : Document → Option (List ConditionDetails)} {c : ConditionDetails}
    (h : readFields? subconditions? room d = some c) :
    c.subconditions = [] ∨ ∃ e, subconditions? e = some c.subconditions := by
  obtain ⟨r, -, h⟩ := Option.bind_eq_some_iff.1 h
  obtain ⟨kind, -, h⟩ := Option.bind_eq_some_iff.1 h
  obtain ⟨publicKey, -, h⟩ := Option.bind_eq_some_iff.1 h
  obtain ⟨threshold, -, h⟩ := Option.bind_eq_some_iff.1 h
  obtain ⟨subconditions, hsub, h⟩ := Option.bind_eq_some_iff.1 h
  cases h
  exact (Record.read_of_defaulted? hsub).imp_right fun ⟨e, _, he⟩ => ⟨e.2, he⟩

theorem depth_of_read? : ∀ {room : Nat} {d : Document} {c : ConditionDetails}, read? room d = some c →
    c.toJson.depth ≤ room
  | 0, _, _, h => by cases h
  | 1, _, c, h => by
    rcases subconditions_of_readFields? h with hnil | ⟨e, he⟩
    · exact Nat.le_of_eq (depth_toJson_of_nil hnil)
    · cases he
  | room + 2, _, c, h => by
    by_cases hnil : c.subconditions = []
    · rw [depth_toJson_of_nil hnil]
      omega
    · obtain ⟨e, he⟩ := (subconditions_of_readFields? h).resolve_left hnil
      obtain ⟨n, -, hitems⟩ := Document.list?_eq_some he
      rw [depth_toJson hnil, Nat.add_le_add_iff_right, listToJson_eq, Json.depthItems_le_iff, List.forall_mem_map]
      intro c hc
      obtain ⟨e, he⟩ := hitems c hc
      exact depth_of_read? he

end ConditionDetails

theorem Condition.depth_of_read? {c : Condition} (h : Condition.read? room d = some c) : c.toJson.depth ≤ room := by
  obtain ⟨r, hr, h⟩ := Option.bind_eq_some_iff.1 h
  obtain ⟨n, rfl⟩ := Document.room_of_record? hr
  obtain ⟨details, hdetails, h⟩ := Option.bind_eq_some_iff.1 h
  obtain ⟨uri, -, h⟩ := Option.bind_eq_some_iff.1 h
  cases h
  refine Json.depth_object_le_iff.2 ?_
  simp only [List.forall_mem_cons, List.not_mem_nil, false_implies, implies_true, and_true]
  obtain ⟨e, -, he⟩ := Record.read_of_required? hdetails
  exact ⟨ConditionDetails.depth_of_read? he, Nat.zero_le n⟩

theorem Output.depth_of_read? {o : Output} (h : Output.read? room d = some o) : o.toJson.depth ≤ room := by
  obtain ⟨r, hr, h⟩ := Option.bind_eq_some_iff.1 h
  obtain ⟨n, rfl⟩ := Document.room_of_record? hr
  obtain ⟨keys, hkeys, h⟩ := Option.bind_eq_some_iff.1 h
  obtain ⟨amount, -, h⟩ := Option.bind_eq_some_iff.1 h
  obtain ⟨condition, hcondition, h⟩ := Option.bind_eq_some_iff.1 h
  cases h
  refine Json.depth_object_le_iff.2 ?_
  simp only [List.forall_mem_cons, List.not_mem_nil, false_implies, implies_true, and_true]
  refine ⟨?_, Nat.zero_le n, ?_⟩
  · obtain ⟨e, -, he⟩ := Record.read_of_required? hkeys
    exact Document.depth_of_strings? he
  · obtain ⟨e, -, he⟩ := Record.read_of_required? hcondition
    exact Condition.depth_of_read? he

/-! ## Free-form data -/

/-- Only `null` has the value `null`. -/
theorem Document.isNull_of_value? {v : Json} (hd : d ≠ .null) (h : d.value? room = some v) : v.isNull = false := by
  cases d with
  | null => exact absurd rfl hd
  | bool b => cases h; rfl
  | number n =>
    obtain ⟨n, -, rfl⟩ := Option.map_eq_some_iff.1 h
    rfl
  | string s =>
    obtain ⟨s, -, rfl⟩ := Option.map_eq_some_iff.1 h
    rfl
  | array items =>
    unfold value? at h
    split at h
    · cases h
    · obtain ⟨vs, -, rfl⟩ := Option.map_eq_some_iff.1 h
      rfl
  | object members =>
    unfold value? at h
    split at h
    · cases h
    · obtain ⟨ms, -, rfl⟩ := Option.map_eq_some_iff.1 h
      rfl

/-- Free-form data that is read is no `null`, and nests no deeper than its reader allowed. -/
theorem Document.depth_of_optional? {x : Option Json} (h : d.optional? (Document.value? room) = some x) :
    (x.getD .null).depth ≤ room ∧ (x.filter fun v => !v.isNull) = x := by
  by_cases hd : d = .null
  · subst hd
    cases h
    exact ⟨Nat.zero_le room, rfl⟩
  · have hmap : d.optional? (Document.value? room) = (d.value? room).map some := by
      cases d with
      | null => exact absurd rfl hd
      | _ => rfl
    rw [hmap] at h
    obtain ⟨v, hv, rfl⟩ := Option.map_eq_some_iff.1 h
    exact ⟨depth_of_value? hv, by rw [Option.filter_some, isNull_of_value? hd hv]; rfl⟩

theorem Record.depth_of_optional? {r : Record} {name : String} {x : Option Json}
    (h : r.optional? name (Document.value? room) = some x) :
    (x.getD .null).depth ≤ room ∧ (x.filter fun v => !v.isNull) = x := by
  unfold optional? at h
  split at h
  · exact Document.depth_of_optional? h
  · split at h
    · cases h
      exact ⟨Nat.zero_le room, rfl⟩
    · cases h

theorem Asset.depth_of_read? {a : Asset} (h : Asset.read? room d = some a) :
    a.toJson.depth ≤ room ∧ a.withoutNull = a := by
  obtain ⟨-, -, h⟩ := Option.bind_eq_some_iff.1 h
  -- Which of the two shapes it was is of no matter here: data that looks like a link has been read as one.
  rcases (Option.orElse_eq_some _ _ _).1 h with hlink | ⟨-, hdata⟩
  · obtain ⟨r, hr, hfields⟩ := Option.bind_eq_some_iff.1 hlink
    obtain ⟨n, rfl⟩ := Document.room_of_namedRecord? hr
    obtain ⟨id, -, hasset⟩ := Option.bind_eq_some_iff.1 hfields
    cases hasset
    exact ⟨Json.depth_object_le_iff.2 (List.forall_mem_singleton.2 (Nat.zero_le n)), rfl⟩
  · obtain ⟨r, hr, hfields⟩ := Option.bind_eq_some_iff.1 hdata
    obtain ⟨n, rfl⟩ := Document.room_of_namedRecord? hr
    obtain ⟨content, hcontent, hasset⟩ := Option.bind_eq_some_iff.1 hfields
    cases hasset
    obtain ⟨hdepth, hfilter⟩ := Record.depth_of_optional? hcontent
    exact ⟨Json.depth_object_le_iff.2 (List.forall_mem_singleton.2 hdepth), congrArg Asset.data hfilter⟩

/-! ## Transactions -/

namespace Transaction
variable {t : Transaction}

theorem depth_of_read? (h : Transaction.read? room d = some t) : t.toJson.depth ≤ room ∧ t.withoutNulls = t := by
  obtain ⟨r, hr, h⟩ := Option.bind_eq_some_iff.1 h
  obtain ⟨n, rfl⟩ := Document.room_of_record? hr
  obtain ⟨id, -, h⟩ := Option.bind_eq_some_iff.1 h
  obtain ⟨version, -, h⟩ := Option.bind_eq_some_iff.1 h
  obtain ⟨operation, -, h⟩ := Option.bind_eq_some_iff.1 h
  obtain ⟨asset, hasset, h⟩ := Option.bind_eq_some_iff.1 h
  obtain ⟨metadata, hmetadata, h⟩ := Option.bind_eq_some_iff.1 h
  obtain ⟨inputs, hinputs, h⟩ := Option.bind_eq_some_iff.1 h
  obtain ⟨outputs, houtputs, h⟩ := Option.bind_eq_some_iff.1 h
  cases h
  obtain ⟨e, -, hasset⟩ := Record.read_of_required? hasset
  obtain ⟨hasset, hassetNull⟩ := Asset.depth_of_read? hasset
  obtain ⟨hmetadata, hmetadataNull⟩ := Record.depth_of_optional? hmetadata
  constructor
  · refine Json.depth_object_le_iff.2 ?_
    simp only [List.forall_mem_cons, List.not_mem_nil, false_implies, implies_true, and_true]
    refine ⟨?_, Nat.zero_le n, Nat.zero_le n, hasset, hmetadata, ?_, ?_⟩
    · cases id <;> exact Nat.zero_le n
    · obtain ⟨e, -, he⟩ := Record.read_of_required? hinputs
      obtain ⟨m, rfl, hitems⟩ := Document.list?_eq_some he
      refine Json.depth_list_le_iff.2 fun i hi => ?_
      obtain ⟨e, he⟩ := hitems i hi
      exact Input.depth_of_read? he
    · obtain ⟨e, -, he⟩ := Record.read_of_required? houtputs
      obtain ⟨m, rfl, hitems⟩ := Document.list?_eq_some he
      refine Json.depth_list_le_iff.2 fun o ho => ?_
      obtain ⟨e, he⟩ := hitems o ho
      exact Output.depth_of_read? he
  · simp only [withoutNulls, hassetNull, hmetadataNull]

/-- The free-form data of a transaction. -/
def freeForm (t : Transaction) : List Json := [t.asset.content, t.metadata.getD .null]

/-- A transaction whose text is not too deep is read from it. -/
theorem parse?_text (hheld : ∀ v ∈ t.freeForm, v.Held) (hexact : ∀ v ∈ t.freeForm, v.isExact = true)
    (hdepth : t.toJson.depth ≤ Document.depthLimit) : parse? t.text = some t.withoutNulls := by
  have hasset : t.asset.content ∈ t.freeForm := List.mem_cons_self
  have hmetadata : t.metadata.getD .null ∈ t.freeForm := List.mem_cons_of_mem _ List.mem_cons_self
  have hproper : t.isProper = true :=
    isProper_iff_proper.2 ⟨(hheld _ hasset).proper, (hheld _ hmetadata).proper⟩
  rw [parse?, text, Document.parse?_text (isFinite_toJson hproper)]
  exact read?_document ((hheld _ hasset).faithful (hexact _ hasset))
    ((hheld _ hmetadata).faithful (hexact _ hmetadata)) hdepth

theorem held_of_parse? {text : String} (h : parse? text = some t) : ∀ v ∈ t.freeForm, v.Held := by
  obtain ⟨d, hd, h⟩ := Option.bind_eq_some_iff.1 h
  have hrange := Document.numbersPass_of_parse? (fun _ _ => Literal.inRange_of_value?) hd
  obtain ⟨hasset, hmetadata⟩ := all_of_read? Document.yields_inRange hrange h
  obtain ⟨hassetNames, hmetadataNames⟩ := all_of_read? (Document.yields_namesAscend _) hrange h
  simp only [freeForm, List.forall_mem_cons, List.not_mem_nil, false_implies, implies_true, and_true]
  exact ⟨⟨hassetNames, hasset⟩, ⟨hmetadataNames, hmetadata⟩⟩

/-- **Round trips.** A transaction whose text nests no deeper than a text may is read from it again, with a `null` in
its free-form data read as absent; that changes neither the text nor the id nor the message. A transaction that is read
from any text has a text that nests no deeper, and is read from that again. -/
theorem text_round_trip :
    (∀ t : Transaction, (∀ v ∈ t.freeForm, v.Held) → (∀ v ∈ t.freeForm, v.isExact = true) →
      t.toJson.depth ≤ Document.depthLimit →
      parse? t.text = some t.withoutNulls ∧ t.withoutNulls.text = t.text ∧
        t.withoutNulls.transactionId = t.transactionId ∧ t.withoutNulls.message = t.message) ∧
    ∀ (text : String) (t : Transaction), parse? text = some t → (∀ v ∈ t.freeForm, v.isExact = true) →
      t.toJson.depth ≤ Document.depthLimit ∧ parse? t.text = some t := by
  refine ⟨fun t hheld hexact hdepth => ?_, fun text t h hexact => ?_⟩
  · have hunsigned : t.withoutNulls.unsigned.toJson = t.unsigned.toJson := toJson_withoutNulls t.unsigned
    refine ⟨parse?_text hheld hexact hdepth, congrArg Json.text (toJson_withoutNulls t), ?_, ?_⟩
    · rw [transactionId, hunsigned, transactionId]
    · rw [message, hunsigned, message]
  · obtain ⟨d, -, hread⟩ := Option.bind_eq_some_iff.1 h
    obtain ⟨hdepth, hnulls⟩ := depth_of_read? hread
    refine ⟨hdepth, (parse?_text (held_of_parse? h) hexact hdepth).trans ?_⟩
    rw [hnulls]

/-- A threshold over two keys, data that is `null`, and a double; and a text that gives fields by position, and one
that is not known. -/
theorem text_round_trip_threshold : ∃ (t u : Transaction) (text : String), t.asset.content = .null ∧
    parse? t.text = some t.withoutNulls ∧ t.withoutNulls.message = t.message ∧
    parse? text = some u ∧ u.inputs = [⟨["key"], none, none⟩] ∧ parse? u.text = some u := by
  let key (publicKey : String) : ConditionDetails := ⟨"ed25519-sha-256", some publicKey, none, []⟩
  let details : ConditionDetails := ⟨"threshold-sha-256", none, some 2, [key "a", key "b"]⟩
  let t : Transaction := ⟨some "id", "2.0", .transfer, .data (some .null),
    some (.object [("x", .number (.float (Binary64.ofNat 3)))]), [⟨["a", "b"], some ⟨"spent", 1⟩, none⟩],
    [⟨["a", "b"], "7", ⟨details, "ni:///"⟩⟩]⟩
  let text := "\x7b\"outputs\":[],\"inputs\":[[[\"key\"],null,null]],\"asset\":\x7b\"data\":null\x7d,\"other\":[1.5]," ++
    "\"operation\":\"CREATE\",\"version\":\"2.0\"\x7d"
  have hheld : ∀ v ∈ t.freeForm, v.Held := by decide +kernel
  have hexact : ∀ v ∈ t.freeForm, v.isExact = true := by decide +kernel
  have hdepth : t.toJson.depth ≤ Document.depthLimit := by decide +kernel
  obtain ⟨hwritten, -, -, hmessage⟩ := text_round_trip.1 t hheld hexact hdepth
  have hread : (parse? text).map (fun u => (u.inputs, u.freeForm.all Json.isExact)) =
      some ([⟨["key"], none, none⟩], true) := by decide +kernel
  obtain ⟨u, hu, hfacts⟩ := Option.map_eq_some_iff.1 hread
  obtain ⟨hinputs, huexact⟩ := Prod.mk.inj hfacts
  exact ⟨t, u, text, rfl, hwritten, hmessage, hu, hinputs, (text_round_trip.2 text u hu (List.all_eq_true.1 huexact)).2⟩

end Transaction
end FederatedLedger
