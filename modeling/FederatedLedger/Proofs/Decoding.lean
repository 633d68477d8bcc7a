import FederatedLedger.Proofs.Reading

/-!
# Structures read from what they write

Each structure of the ledger is read from its JSON form again, as far as the form nests no deeper than the reader allows
(`OutputLink.read?_document` and so on, up to `Transaction.read?_document`). Only a `null` in free-form data is lost:
it is read as absent data, which is written as the same `null` (`Transaction.toJson_withoutNulls`).

A form is an object with the fields in order. `record?_document` says what its reader finds; a field is then read from
what was written for it (`required?_fields` and its like), so that each structure is composed from its fields.
-/

namespace FederatedLedger

/-! ## Fields -/

/-- The fields of an object, as they are read from its own text. -/
def Json.fieldDocuments (members : List (String × Json)) : List (String × Document) :=
  members.map fun (k, v) => (k, v.document)

/-- The fields of an object as a record. -/
def Json.fields (members : List (String × Json)) : Record := ⟨true, Json.fieldDocuments members⟩

namespace Json
variable {members : List (String × Json)} {names : List String} {room : Nat}

theorem itemDocuments_eq (items : List Json) : itemDocuments items = items.map document := by
  induction items with
  | nil => rfl
  | cons v items ih => rw [itemDocuments, ih, List.map_cons]

theorem lookup_fieldDocuments (name : String) :
    (fieldDocuments members).lookup name = (members.lookup name).map document := by
  induction members with
  | nil => rfl
  | cons m members ih =>
    obtain ⟨k, v⟩ := m
    rw [fieldDocuments, List.map_cons, List.lookup_cons, List.lookup_cons]
    cases name == k with
    | true => rfl
    | false => exact ih

theorem members?_document (hroom : room ≠ 0) :
    (object members).document.members? room = some (fieldDocuments members) := by
  rw [document, Document.members?, if_neg hroom]
  induction members with
  | nil => rfl
  | cons m members ih =>
    rw [memberDocuments, List.mapM_cons, ih]
    rfl

/-- Of the members of an object the known ones are found. -/
theorem namedRecord?_document (hroom : room ≠ 0) (hnodup : (members.map Prod.fst).Nodup) :
    (object members).document.namedRecord? names room =
      some (fields (members.filter fun m => names.contains m.1)) := by
  have hfilter : (fieldDocuments members).filter (fun m => names.contains m.1) =
      fieldDocuments (members.filter fun m => names.contains m.1) := by
    rw [fieldDocuments, List.filter_map]
    rfl
  have hnames : (fieldDocuments (members.filter fun m => names.contains m.1)).map Prod.fst =
      (members.filter fun m => names.contains m.1).map Prod.fst := by
    rw [fieldDocuments, List.map_map]
    rfl
  have hguard : ((fieldDocuments (members.filter fun m => names.contains m.1)).map Prod.fst).Nodup := by
    rw [hnames]
    exact hnodup.sublist (List.filter_sublist.map _)
  rw [Document.namedRecord?, members?_document hroom]
  change Option.bind (guard (((fieldDocuments members).filter fun m => names.contains m.1).map Prod.fst).Nodup) _ = _
  simp only [hfilter, guard, if_pos hguard]
  rfl

/-- An object of known members is read as they are. -/
theorem record?_document (hroom : room ≠ 0) (hnodup : (members.map Prod.fst).Nodup)
    (hknown : ∀ m ∈ members, names.contains m.1 = true) :
    (object members).document.record? names room = some (fields members) := by
  have hall : members.filter (fun m => names.contains m.1) = members := List.filter_eq_self.2 hknown
  have hrecord : (object members).document.namedRecord? names room =
      some (fields (members.filter fun m => names.contains m.1)) := namedRecord?_document hroom hnodup
  rwa [hall] at hrecord

section
variable {α : Type} {name : String} {f : Document → Option α}

theorem required?_fields :
    (fields members).required? name f = (members.lookup name).bind fun v => f v.document := by
  rw [Record.required?, fields, lookup_fieldDocuments, Option.bind_map]
  rfl

theorem optional?_fields {v : Json} (h : members.lookup name = some v) :
    (fields members).optional? name f = v.document.optional? f := by
  simp only [Record.optional?, fields, lookup_fieldDocuments, h, Option.map_some]

theorem defaulted?_fields {a : α} :
    (fields members).defaulted? name a f = (members.lookup name).elim (some a) fun v => f v.document := by
  rw [Record.defaulted?, fields, lookup_fieldDocuments]
  cases members.lookup name <;> rfl

end

/-! ## Values of fields -/

section
variable {α : Type} {g : α → Json}

/-- Where something is written, it is not taken for nothing. -/
theorem optional?_document {v : Json} {f : Document → Option α} (hv : v ≠ .null) :
    v.document.optional? f = (f v.document).map some := by
  cases v with
  | null => exact absurd rfl hv
  | _ => rfl

theorem optional?_ofOption {f : Document → Option α} (hnull : ∀ a, g a ≠ .null) {x : Option α}
    (hf : ∀ a, x = some a → f (g a).document = some a) : (ofOption g x).document.optional? f = some x := by
  cases x with
  | none => rfl
  | some a =>
    rw [ofOption, optional?_document (hnull a), hf a rfl]
    rfl

/-- A list is read from the forms of its items. -/
theorem list?_document {f : Nat → Document → Option α} (hroom : room ≠ 0) {as : List α}
    (hf : ∀ a ∈ as, f (room - 1) (g a).document = some a) :
    Document.list? f room (array (as.map g)).document = some as := by
  rw [document, Document.list?, if_neg hroom, itemDocuments_eq, List.map_map]
  induction as with
  | nil => rfl
  | cons a as ih =>
    obtain ⟨ha, has⟩ := List.forall_mem_cons.1 hf
    rw [List.map_cons, List.mapM_cons, Function.comp_apply, ha, ih has]
    rfl

theorem strings?_document (hroom : room ≠ 0) (ss : List String) :
    (ofStrings ss).document.strings? room = some ss :=
  list?_document hroom fun _ _ => rfl

end

/-- A number of at most 64 bits is read as it is, below its bound. -/
theorem natural?_document {n bound : Nat} (hn : n < bound) (hbound : bound ≤ UInt64.size) :
    (ofNat n).document.natural? bound = some n := by
  have hstable : (Number.int n).isStable = true := by
    rw [Number.isStable_int_iff]
    simp only [UInt64.size] at hbound
    omega
  have hrange : 0 ≤ (n : Int) ∧ (n : Int) < bound := ⟨Int.natCast_nonneg _, Int.ofNat_lt.2 hn⟩
  rw [ofNat, document, Number.value?_literal hstable, Document.natural?, if_pos hrange, Int.toNat_natCast]

theorem word?_document (n : UInt32) : (ofNat n.toNat).document.word? = some n := by
  rw [Document.word?, natural?_document n.toNat_lt (by decide), Option.map_some, UInt32.ofNat_toNat]

/-! ## Depth -/

theorem depth_list_le_iff {α : Type} {g : α → Json} {as : List α} {n : Nat} :
    (array (as.map g)).depth ≤ n + 1 ↔ ∀ a ∈ as, (g a).depth ≤ n := by
  rw [depth, Nat.add_le_add_iff_right, depthItems_le_iff, List.forall_mem_map]

theorem depth_object_le_iff {n : Nat} : (object members).depth ≤ n + 1 ↔ ∀ m ∈ members, m.2.depth ≤ n := by
  rw [depth, Nat.add_le_add_iff_right, depthMembers_le_iff]

/-- A list of forms takes one level more than its items. -/
theorem depth_list_le {α : Type} {g : α → Json} {as : List α} (h : (array (as.map g)).depth ≤ room) :
    ∃ r, room = r + 1 ∧ ∀ a ∈ as, (g a).depth ≤ r := by
  obtain ⟨r, rfl⟩ := Nat.exists_eq_succ_of_ne_zero (Nat.ne_zero_of_lt h)
  exact ⟨r, rfl, depth_list_le_iff.1 h⟩

/-- An object takes one level more than its members. -/
theorem depth_object_le (h : (object members).depth ≤ room) : ∃ r, room = r + 1 ∧ ∀ m ∈ members, m.2.depth ≤ r := by
  obtain ⟨r, rfl⟩ := Nat.exists_eq_succ_of_ne_zero (Nat.ne_zero_of_lt h)
  exact ⟨r, rfl, depth_object_le_iff.1 h⟩

theorem strings?_document_of_depth {ss : List String} (h : (ofStrings ss).depth ≤ room) :
    (ofStrings ss).document.strings? room = some ss := by
  obtain ⟨r, rfl, -⟩ := depth_list_le h
  exact strings?_document (Nat.succ_ne_zero r) ss

end Json

/-! ## Structures -/

variable {room : Nat}

theorem Operation.read?_document (o : Operation) : Operation.read? room o.toJson.document = some o := by
  cases o <;> rfl

theorem OutputLink.read?_document {l : OutputLink} (h : l.toJson.depth ≤ room) :
    OutputLink.read? room l.toJson.document = some l := by
  obtain ⟨r, rfl, -⟩ := Json.depth_object_le h
  have hrecord : l.toJson.document.record? ["transaction_id", "output_index"] (r + 1) = some (Json.fields _) :=
    Json.record?_document (Nat.succ_ne_zero r) (by simp) (by simp)
  rw [OutputLink.read?, hrecord]
  simp [Json.required?_fields, List.lookup_cons, Json.word?_document, Json.document, Document.string?]

theorem Input.read?_document {i : Input} (h : i.toJson.depth ≤ room) :
    Input.read? room i.toJson.document = some i := by
  obtain ⟨r, rfl, hfields⟩ := Json.depth_object_le h
  simp only [List.forall_mem_cons, List.not_mem_nil, false_implies, implies_true, and_true] at hfields
  obtain ⟨howners, hfulfills, -⟩ := hfields
  have hrecord : i.toJson.document.record? ["owners_before", "fulfills", "fulfillment"] (r + 1) = some (Json.fields _) :=
    Json.record?_document (Nat.succ_ne_zero r) (by simp) (by simp)
  have hlink : (Json.ofOption OutputLink.toJson i.fulfills).document.optional? (OutputLink.read? r) =
      some i.fulfills := by
    refine Json.optional?_ofOption nofun fun l hl => OutputLink.read?_document ?_
    rwa [hl] at hfulfills
  have hsignature : (Json.ofOption Json.string i.fulfillment).document.optional? Document.string? = some i.fulfillment :=
    Json.optional?_ofOption nofun fun _ _ => rfl
  rw [Input.read?, hrecord]
  simp [Json.required?_fields, Json.optional?_fields, List.lookup_cons, Json.strings?_document_of_depth howners, hlink,
    hsignature]

namespace ConditionDetails

/-- The fields of a condition are read, given that the conditions in it are. -/
theorem readFields?_document {subconditions? : Document → Option (List ConditionDetails)} {c : ConditionDetails}
    (hroom : room ≠ 0) (hsub : c.subconditions ≠ [] →
      subconditions? (Json.array (listToJson c.subconditions)).document = some c.subconditions) :
    readFields? subconditions? room c.toJson.document = some c := by
  obtain ⟨kind, publicKey, threshold, subconditions⟩ := c
  obtain ⟨members, hmembers⟩ : ∃ members, toJson ⟨kind, publicKey, threshold, subconditions⟩ = .object members := ⟨_, rfl⟩
  obtain ⟨hnodup, hkind, hkey, hthreshold, hlist⟩ := lookup_members kind publicKey threshold subconditions hmembers
  have hknown : ∀ m ∈ members, ["type", "public_key", "threshold", "subconditions"].contains m.1 = true := by
    obtain rfl := Json.object.inj hmembers
    cases publicKey <;> cases threshold <;> cases subconditions <;> simp [Json.memberOf]
  have hkind : (Json.fields members).required? "type" Document.string? = some kind := by
    rw [Json.required?_fields, hkind]
    rfl
  have hkey : (Json.fields members).defaulted? "public_key" none (Document.optional? Document.string?) =
      some publicKey := by
    rw [Json.defaulted?_fields, hkey]
    cases publicKey <;> rfl
  have hthreshold : (Json.fields members).defaulted? "threshold" none (Document.optional? Document.word?) =
      some threshold := by
    rw [Json.defaulted?_fields, hthreshold]
    cases threshold with
    | none => rfl
    | some t =>
      have hnumber : Json.ofNat t.toNat ≠ .null := fun h => by cases h
      rw [Option.map_some, Option.elim_some, Json.optional?_document hnumber, Json.word?_document]
      rfl
  have hlist : (Json.fields members).defaulted? "subconditions" [] subconditions? = some subconditions := by
    rw [Json.defaulted?_fields, hlist]
    cases subconditions with
    | nil => rfl
    | cons c cs => exact hsub (List.cons_ne_nil c cs)
  rw [hmembers, readFields?, Json.record?_document hroom hnodup hknown]
  simp only [Option.bind_eq_bind, Option.bind_some, hkind, hkey, hthreshold, hlist, Option.pure_def]

/-- A condition takes one level for itself, and one for the array of the conditions in it, if there are any. -/
theorem depth_toJson {c : ConditionDetails} (hne : c.subconditions ≠ []) :
    c.toJson.depth = Json.depthItems (listToJson c.subconditions) + 2 := by
  obtain ⟨kind, publicKey, threshold, subconditions⟩ := c
  cases subconditions with
  | nil => exact absurd rfl hne
  | cons c cs =>
    cases publicKey <;> cases threshold <;>
      simp [toJson, Json.memberOf, Json.depth, Json.depthMembers, Json.ofNat]

theorem depth_toJson_of_nil {c : ConditionDetails} (hnil : c.subconditions = []) : c.toJson.depth = 1 := by
  obtain ⟨kind, publicKey, threshold, subconditions⟩ := c
  obtain rfl : subconditions = [] := hnil
  cases publicKey <;> cases threshold <;> simp [toJson, Json.memberOf, Json.depth, Json.depthMembers, Json.ofNat]

mutual

theorem read?_document : ∀ {c : ConditionDetails} {room : Nat}, c.toJson.depth ≤ room →
    read? room c.toJson.document = some c
  | ⟨kind, publicKey, threshold, subconditions⟩, 0, h => absurd h (Nat.not_succ_le_zero _)
  -- The reader has no room for the array of the conditions in it, and the form is not that deep.
  | ⟨kind, publicKey, threshold, subconditions⟩, 1, h => by
    refine readFields?_document Nat.one_ne_zero fun hne => ?_
    rw [depth_toJson hne] at h
    omega
  | ⟨kind, publicKey, threshold, subconditions⟩, room + 2, h => by
    refine readFields?_document (Nat.succ_ne_zero _) fun hne => ?_
    rw [depth_toJson hne, Nat.add_le_add_iff_right] at h
    rw [Json.document, Document.list?, if_neg (Nat.succ_ne_zero room)]
    exact readItems?_document h

theorem readItems?_document : ∀ {cs : List ConditionDetails} {room : Nat}, Json.depthItems (listToJson cs) ≤ room →
    (Json.itemDocuments (listToJson cs)).mapM (read? room) = some cs
  | [], _, _ => rfl
  | c :: cs, room, h => by
    obtain ⟨hc, hcs⟩ := Nat.max_le.1 h
    rw [listToJson, Json.itemDocuments, List.mapM_cons, read?_document hc, readItems?_document hcs]
    rfl

end

end ConditionDetails

theorem Condition.read?_document {c : Condition} (h : c.toJson.depth ≤ room) :
    Condition.read? room c.toJson.document = some c := by
  obtain ⟨r, rfl, hfields⟩ := Json.depth_object_le h
  obtain ⟨hdetails, -⟩ := List.forall_mem_cons.1 hfields
  have hrecord : c.toJson.document.record? ["details", "uri"] (r + 1) = some (Json.fields _) :=
    Json.record?_document (Nat.succ_ne_zero r) (by simp) (by simp)
  rw [Condition.read?, hrecord]
  simp [Json.required?_fields, List.lookup_cons, ConditionDetails.read?_document hdetails, Json.document,
    Document.string?]

theorem Output.read?_document {o : Output} (h : o.toJson.depth ≤ room) :
    Output.read? room o.toJson.document = some o := by
  obtain ⟨r, rfl, hfields⟩ := Json.depth_object_le h
  simp only [List.forall_mem_cons, List.not_mem_nil, false_implies, implies_true, and_true] at hfields
  obtain ⟨hkeys, -, hcondition⟩ := hfields
  have hrecord : o.toJson.document.record? ["public_keys", "amount", "condition"] (r + 1) = some (Json.fields _) :=
    Json.record?_document (Nat.succ_ne_zero r) (by simp) (by simp)
  have hamount : (Json.string o.amount).document.string? = some o.amount := rfl
  rw [Output.read?, hrecord]
  simp [Json.required?_fields, List.lookup_cons, Json.strings?_document_of_depth hkeys, hamount,
    Condition.read?_document hcondition]

/-! ## Free-form data -/

namespace Json

/-- The value is read as it was written: its members are in order, and its numbers are read as they were written. -/
structure Faithful (v : Json) : Prop where
  ordered : v.isOrdered = true
  stable : v.isStable = true

def isNull : Json → Bool
  | .null => true
  | _ => false

/-- Free-form data is read as it was written, but a `null` as absent. -/
theorem optional?_value {x : Option Json} (hx : (x.getD .null).Faithful) (hdepth : (x.getD .null).depth ≤ room) :
    (x.getD .null).document.optional? (Document.value? room) = some (x.filter fun v => !v.isNull) := by
  cases x with
  | none => rfl
  | some v =>
    by_cases hv : v = .null
    · subst hv; rfl
    · have hnull : v.isNull = false := by cases v <;> first | rfl | exact absurd rfl hv
      rw [Option.getD_some] at hx hdepth ⊢
      rw [optional?_document hv, value?_document hx.ordered hx.stable hdepth, Option.filter_some, hnull]
      rfl

/-- An object is faithful if its names are in order and its members are faithful. -/
theorem Faithful.object {members : List (String × Json)} (hnames : Entries.Ascending members)
    (h : ∀ m ∈ members, m.2.Faithful) : (Json.object members).Faithful where
  ordered := Bool.and_eq_true_iff.2 ⟨decide_eq_true hnames, allMembers_iff.2 fun m hm => (h m hm).ordered⟩
  stable := Bool.and_eq_true_iff.2 ⟨rfl, allMembers_iff.2 fun m hm => (h m hm).stable⟩

theorem Faithful.string (s : String) : (Json.string s).Faithful := ⟨rfl, rfl⟩

end Json

/-- The asset with a `null` in its data taken for absent data. -/
def Asset.withoutNull : Asset → Asset
  | .link id => .link id
  | .data content => .data (content.filter fun v => !v.isNull)

theorem Json.getD_withoutNull (x : Option Json) : (x.filter fun v => !v.isNull).getD .null = x.getD .null := by
  cases x with
  | none => rfl
  | some v => cases v <;> rfl

theorem Asset.toJson_withoutNull (a : Asset) : a.withoutNull.toJson = a.toJson := by
  cases a with
  | link id => rfl
  | data content => rw [withoutNull, toJson, toJson, Json.getD_withoutNull]

theorem Asset.read?_document {a : Asset} (ha : a.content.Faithful) (h : a.toJson.depth ≤ room) :
    Asset.read? room a.toJson.document = some a.withoutNull := by
  have hfaithful : a.toJson.Faithful := by
    cases a with
    | link id => exact .object (List.pairwise_singleton _ _) (List.forall_mem_singleton.2 (.string id))
    | data content => exact .object (List.pairwise_singleton _ _) (List.forall_mem_singleton.2 ha)
  have hvalue := Json.value?_document hfaithful.ordered hfaithful.stable h
  rw [Asset.read?, hvalue]
  cases a with
  | link id =>
    obtain ⟨r, rfl, -⟩ := Json.depth_object_le h
    have hrecord : (Asset.link id).toJson.document.namedRecord? ["id"] (r + 1) = some (Json.fields _) :=
      Json.namedRecord?_document (Nat.succ_ne_zero r) (by simp)
    rw [hrecord]
    simp [Json.required?_fields, Json.document, Document.string?, withoutNull, guard]
  | data content =>
    obtain ⟨r, rfl, hfields⟩ := Json.depth_object_le h
    have hdepth : (content.getD .null).depth ≤ r := hfields _ (List.mem_singleton_self _)
    have hlink : (Asset.data content).toJson.document.namedRecord? ["id"] (r + 1) = some (Json.fields _) :=
      Json.namedRecord?_document (Nat.succ_ne_zero r) (by simp)
    have hdata : (Asset.data content).toJson.document.namedRecord? ["data"] (r + 1) = some (Json.fields _) :=
      Json.namedRecord?_document (Nat.succ_ne_zero r) (by simp)
    have hcontent : (content.getD .null).document.optional? (Document.value? r) = _ := Json.optional?_value ha hdepth
    rw [hlink, hdata]
    simp [Json.required?_fields, Json.optional?_fields, hcontent, withoutNull, guard]

/-! ## Transactions -/

namespace Transaction
variable {t : Transaction}

/-- The transaction with a `null` in its free-form data taken for absent data. -/
def withoutNulls (t : Transaction) : Transaction :=
  { t with asset := t.asset.withoutNull, metadata := t.metadata.filter fun v => !v.isNull }

/-- Absent data is written as `null`. -/
theorem toJson_withoutNulls (t : Transaction) : t.withoutNulls.toJson = t.toJson := by
  simp only [toJson, withoutNulls, Asset.toJson_withoutNull, Json.getD_withoutNull]

theorem read?_document (hasset : t.asset.content.Faithful) (hmetadata : (t.metadata.getD .null).Faithful)
    (h : t.toJson.depth ≤ room) : Transaction.read? room t.toJson.document = some t.withoutNulls := by
  obtain ⟨r, rfl, hfields⟩ := Json.depth_object_le h
  simp only [List.forall_mem_cons, List.not_mem_nil, false_implies, implies_true, and_true] at hfields
  obtain ⟨-, -, -, hassetDepth, hmetadataDepth, hinputsDepth, houtputsDepth⟩ := hfields
  obtain ⟨q, rfl, hinputs⟩ := Json.depth_list_le hinputsDepth
  obtain ⟨q', hq, houtputs⟩ := Json.depth_list_le houtputsDepth
  obtain rfl : q = q' := Nat.succ.inj hq
  have hrecord : t.toJson.document.record?
      ["id", "version", "operation", "asset", "metadata", "inputs", "outputs"] (q + 1 + 1) = some (Json.fields _) :=
    Json.record?_document (Nat.succ_ne_zero _) (by simp) (by simp)
  have hid : (Json.ofOption Json.string t.id).document.optional? Document.string? = some t.id :=
    Json.optional?_ofOption nofun fun _ _ => rfl
  have hversion : (Json.string t.version).document.string? = some t.version := rfl
  have hmetadata := Json.optional?_value hmetadata hmetadataDepth
  have hinputs := Json.list?_document (f := Input.read?) (Nat.succ_ne_zero q) fun i hi =>
    Input.read?_document (hinputs i hi)
  have houtputs := Json.list?_document (f := Output.read?) (Nat.succ_ne_zero q) fun o ho =>
    Output.read?_document (houtputs o ho)
  rw [Transaction.read?, hrecord]
  simp [Json.required?_fields, Json.optional?_fields, List.lookup_cons, hid, hversion, Operation.read?_document,
    Asset.read?_document hasset hassetDepth, hmetadata, hinputs, houtputs, withoutNulls]

end Transaction
end FederatedLedger
