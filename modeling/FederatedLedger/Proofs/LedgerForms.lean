import FederatedLedger.Ledger.Prepare
import FederatedLedger.Proofs.Canonical

/-!
# The JSON forms of the ledger's structures

Each structure is told by its JSON form after ordering (`eq_of_toJson_sorted`): a field is looked up by its name, and
what is left out has no name. Free-form data is told as a document, with absent data taken for `null`. The structures
themselves write whole numbers only, so a form is finite if its free-form data is.
-/

namespace FederatedLedger

namespace Json

theorem string_inj {s t : String} (h : (string s).sorted = (string t).sorted) : s = t := string.inj h

theorem ofStrings_inj {ss ts : List String} (h : (ofStrings ss).sorted = (ofStrings ts).sorted) : ss = ts := by
  have hitems := array.inj h
  rw [sortedItems_eq, sortedItems_eq, List.map_map, List.map_map] at hitems
  exact List.map_injective_iff.2 (fun s t h => string.inj h) hitems

theorem ofNat_toNat_inj {m n : UInt32} (h : (ofNat m.toNat).sorted = (ofNat n.toNat).sorted) : m = n :=
  UInt32.toNat_inj.1 (Int.ofNat_inj.1 (Number.int.inj (number.inj h)))

/-- An optional value is told by its form, if a value is and none has the form `null`. -/
theorem ofOption_inj {α : Type} {f : α → Json} (hf : ∀ {a b}, (f a).sorted = (f b).sorted → a = b)
    (hnull : ∀ a, (f a).sorted ≠ .null) {x y : Option α} (h : (ofOption f x).sorted = (ofOption f y).sorted) : x = y := by
  cases x with
  | none =>
    cases y with
    | none => rfl
    | some b => exact absurd h.symm (hnull b)
  | some a =>
    cases y with
    | none => exact absurd h (hnull a)
    | some b => exact congrArg some (hf h)

/-- The same for a value that is left out. -/
theorem map_sorted_inj {α : Type} {f : α → Json} (hf : ∀ {a b}, (f a).sorted = (f b).sorted → a = b) {x y : Option α}
    (h : (x.map f).map sorted = (y.map f).map sorted) : x = y := by
  cases x with
  | none => cases y with
    | none => rfl
    | some b => cases h
  | some a => cases y with
    | none => cases h
    | some b => exact congrArg some (hf (Option.some.inj h))

/-- A list is told by the forms of its items, if an item is. -/
theorem map_items_inj {α : Type} {f : α → Json} (hf : ∀ {a b}, (f a).sorted = (f b).sorted → a = b) {xs ys : List α}
    (h : (array (xs.map f)).sorted = (array (ys.map f)).sorted) : xs = ys := by
  have hitems := array.inj h
  rw [sortedItems_eq, sortedItems_eq, List.map_map, List.map_map] at hitems
  exact List.map_injective_iff.2 (fun a b h => hf h) hitems

end Json

theorem OutputLink.eq_of_toJson_sorted {l k : OutputLink} (h : l.toJson.sorted = k.toJson.sorted) : l = k := by
  have hfield := Json.lookup_of_sorted_eq (by simp) (by simp) h
  have hid := hfield "transaction_id"
  have hindex := hfield "output_index"
  simp [List.lookup_cons] at hid hindex
  obtain ⟨id, index⟩ := l
  obtain ⟨id', index'⟩ := k
  obtain rfl : id = id' := Json.string_inj hid
  obtain rfl : index = index' := Json.ofNat_toNat_inj hindex
  rfl

theorem Input.eq_of_toJson_sorted {i j : Input} (h : i.toJson.sorted = j.toJson.sorted) : i = j := by
  have hfield := Json.lookup_of_sorted_eq (by simp) (by simp) h
  have howners := hfield "owners_before"
  have hfulfills := hfield "fulfills"
  have hfulfillment := hfield "fulfillment"
  simp [List.lookup_cons] at howners hfulfills hfulfillment
  obtain ⟨owners, fulfills, fulfillment⟩ := i
  obtain ⟨owners', fulfills', fulfillment'⟩ := j
  obtain rfl : owners = owners' := Json.ofStrings_inj howners
  obtain rfl : fulfills = fulfills' := Json.ofOption_inj OutputLink.eq_of_toJson_sorted nofun hfulfills
  obtain rfl : fulfillment = fulfillment' := Json.ofOption_inj Json.string_inj nofun hfulfillment
  rfl

namespace ConditionDetails

/-- What can be looked up in the JSON form of a condition. -/
theorem lookup_members (kind : String) (publicKey : Option String) (threshold : Option UInt32)
    (subconditions : List ConditionDetails) {members : List (String × Json)}
    (h : toJson ⟨kind, publicKey, threshold, subconditions⟩ = .object members) :
    (members.map Prod.fst).Nodup ∧ members.lookup "type" = some (.string kind) ∧
    members.lookup "public_key" = publicKey.map .string ∧
    members.lookup "threshold" = threshold.map (fun t => .ofNat t.toNat) ∧
    members.lookup "subconditions" =
      if subconditions.isEmpty then none else some (.array (listToJson subconditions)) := by
  obtain rfl := Json.object.inj h
  cases publicKey <;> cases threshold <;> cases subconditions <;> simp [Json.memberOf, List.lookup_cons]

mutual

theorem eq_of_toJson_sorted : ∀ {c d : ConditionDetails}, c.toJson.sorted = d.toJson.sorted → c = d
  | ⟨kind, publicKey, threshold, subconditions⟩, ⟨kind', publicKey', threshold', subconditions'⟩, h => by
    obtain ⟨hnames, hkind, hkey, hthreshold, hsub⟩ := lookup_members kind publicKey threshold subconditions rfl
    obtain ⟨hnames', hkind', hkey', hthreshold', hsub'⟩ := lookup_members kind' publicKey' threshold' subconditions' rfl
    have hfield := Json.lookup_of_sorted_eq hnames hnames' h
    have h1 := hfield "type"
    have h2 := hfield "public_key"
    have h3 := hfield "threshold"
    have h4 := hfield "subconditions"
    rw [hkind, hkind'] at h1
    rw [hkey, hkey'] at h2
    rw [hthreshold, hthreshold'] at h3
    rw [hsub, hsub'] at h4
    obtain rfl : kind = kind' := Json.string_inj (Option.some.inj h1)
    obtain rfl : publicKey = publicKey' := Json.map_sorted_inj Json.string_inj h2
    obtain rfl : threshold = threshold' := Json.map_sorted_inj Json.ofNat_toNat_inj h3
    cases subconditions with
    | nil => cases subconditions' with
      | nil => rfl
      | cons d ds => cases h4
    | cons c cs => cases subconditions' with
      | nil => cases h4
      | cons d ds => rw [eq_of_listToJson_sorted (Json.array.inj (Option.some.inj h4))]

theorem eq_of_listToJson_sorted : ∀ {cs ds : List ConditionDetails},
    Json.sortedItems (listToJson cs) = Json.sortedItems (listToJson ds) → cs = ds
  | [], [], _ => rfl
  | [], _ :: _, h => by cases h
  | _ :: _, [], h => by cases h
  | c :: cs, d :: ds, h => by
    obtain ⟨hc, hcs⟩ := List.cons.inj h
    rw [eq_of_toJson_sorted hc, eq_of_listToJson_sorted hcs]

end

end ConditionDetails

theorem Condition.eq_of_toJson_sorted {c d : Condition} (h : c.toJson.sorted = d.toJson.sorted) : c = d := by
  have hfield := Json.lookup_of_sorted_eq (by simp) (by simp) h
  have hdetails := hfield "details"
  have huri := hfield "uri"
  simp [List.lookup_cons] at hdetails huri
  obtain ⟨details, uri⟩ := c
  obtain ⟨details', uri'⟩ := d
  obtain rfl : details = details' := ConditionDetails.eq_of_toJson_sorted hdetails
  obtain rfl : uri = uri' := Json.string_inj huri
  rfl

theorem Output.eq_of_toJson_sorted {o q : Output} (h : o.toJson.sorted = q.toJson.sorted) : o = q := by
  have hfield := Json.lookup_of_sorted_eq (by simp) (by simp) h
  have hkeys := hfield "public_keys"
  have hamount := hfield "amount"
  have hcondition := hfield "condition"
  simp [List.lookup_cons] at hkeys hamount hcondition
  obtain ⟨keys, amount, condition⟩ := o
  obtain ⟨keys', amount', condition'⟩ := q
  obtain rfl : keys = keys' := Json.ofStrings_inj hkeys
  obtain rfl : amount = amount' := Json.string_inj hamount
  obtain rfl : condition = condition' := Condition.eq_of_toJson_sorted hcondition
  rfl

/-! ## Assets -/

namespace Asset

/-- The free-form data of an asset; a link has none. -/
def content : Asset → Json
  | .link _ => .null
  | .data content => content.getD .null

/-- The same asset, with absent data taken for `null`. -/
inductive Same : Asset → Asset → Prop
  | link (id : String) : Same (.link id) (.link id)
  | data {x y : Option Json} (h : (x.getD .null).Same (y.getD .null)) : Same (.data x) (.data y)

theorem same_of_toJson_sorted {a b : Asset} (ha : a.content.hasDistinctNames = true)
    (hb : b.content.hasDistinctNames = true) (h : a.toJson.sorted = b.toJson.sorted) : a.Same b := by
  have hmixed (x y : Json) : (Json.object [("id", x)]).sorted ≠ (Json.object [("data", y)]).sorted := by
    intro h
    have := Json.lookup_of_sorted_eq (by simp) (by simp) h "id"
    simp [List.lookup_cons] at this
  cases a with
  | link id => cases b with
    | link id' =>
      have hlink := Json.lookup_of_sorted_eq (by simp) (by simp) h "id"
      simp at hlink
      obtain rfl : id = id' := Json.string_inj hlink
      exact .link id
    | data y => exact absurd h (hmixed _ _)
  | data x => cases b with
    | link id => exact absurd h.symm (hmixed _ _)
    | data y =>
      have hdata := Json.lookup_of_sorted_eq (by simp) (by simp) h "data"
      simp at hdata
      exact .data (Json.same_of_sorted_eq ha hb hdata)

end Asset

/-! ## Numbers in JSON forms

The ledger's own structures write whole numbers only. -/

namespace Json

theorem isFinite_object {members : List (String × Json)} (h : ∀ m ∈ members, m.2.isFinite = true) :
    (object members).isFinite = true :=
  allMembers_iff.2 h

theorem isFinite_array {items : List Json} (h : ∀ v ∈ items, v.isFinite = true) : (array items).isFinite = true :=
  allItems_iff.2 h

theorem isFinite_map {α : Type} {f : α → Json} (h : ∀ a, (f a).isFinite = true) (xs : List α) :
    (array (xs.map f)).isFinite = true :=
  isFinite_array (List.forall_mem_map.2 fun a _ => h a)

theorem isFinite_memberOf {α : Type} {f : α → Json} (h : ∀ a, (f a).isFinite = true) (name : String) (x : Option α) :
    ∀ m ∈ memberOf name f x, m.2.isFinite = true := by
  cases x with
  | none => exact nofun
  | some a => exact List.forall_mem_singleton.2 (h a)

theorem isFinite_ofOption {α : Type} {f : α → Json} (h : ∀ a, (f a).isFinite = true) (x : Option α) :
    (ofOption f x).isFinite = true := by
  cases x with
  | none => rfl
  | some a => exact h a

end Json

theorem Operation.text_inj {o p : Operation} (h : o.text = p.text) : o = p := by
  cases o <;> cases p <;> first | rfl | exact absurd h (by decide)

theorem Input.isFinite_toJson (i : Input) : i.toJson.isFinite = true := by
  refine Json.isFinite_object ?_
  simp only [List.forall_mem_cons, List.not_mem_nil, false_implies, implies_true, and_true]
  exact ⟨Json.isFinite_map (fun _ => rfl) _, Json.isFinite_ofOption (fun _ => rfl) _,
    Json.isFinite_ofOption (fun _ => rfl) _⟩

mutual

theorem ConditionDetails.isFinite_toJson : ∀ c : ConditionDetails, c.toJson.isFinite = true
  | ⟨kind, publicKey, threshold, subconditions⟩ => by
    have hsub := ConditionDetails.isFinite_listToJson subconditions
    refine Json.isFinite_object (List.forall_mem_cons.2 ⟨rfl, List.forall_mem_append.2 ⟨List.forall_mem_append.2
      ⟨Json.isFinite_memberOf (fun _ => rfl) _ _, Json.isFinite_memberOf (fun _ => rfl) _ _⟩, ?_⟩⟩)
    split
    · exact nofun
    · exact List.forall_mem_singleton.2 hsub

theorem ConditionDetails.isFinite_listToJson : ∀ cs : List ConditionDetails,
    (Json.array (ConditionDetails.listToJson cs)).isFinite = true
  | [] => rfl
  | c :: cs => by
    have hcs := ConditionDetails.isFinite_listToJson cs
    exact Bool.and_eq_true_iff.2 ⟨ConditionDetails.isFinite_toJson c, hcs⟩

end

theorem Output.isFinite_toJson (o : Output) : o.toJson.isFinite = true := by
  refine Json.isFinite_object ?_
  simp only [List.forall_mem_cons, List.not_mem_nil, false_implies, implies_true, and_true]
  refine ⟨Json.isFinite_map (fun _ => rfl) _, rfl, Json.isFinite_object ?_⟩
  simp only [List.forall_mem_cons, List.not_mem_nil, false_implies, implies_true, and_true]
  exact ⟨o.condition.details.isFinite_toJson, rfl⟩

/-! ## Transactions -/

namespace Transaction
variable {t u : Transaction}

/-- Whether the free-form data is proper JSON, as all that is read is: its doubles are finite, and no object names a
member twice. -/
def isProper (t : Transaction) : Bool :=
  [t.asset.content, t.metadata.getD .null].all fun v => v.isFinite && v.hasDistinctNames

/-- The two agree on all that a signature is to cover. -/
structure SameContent (t u : Transaction) : Prop where
  version : t.version = u.version
  operation : t.operation = u.operation
  asset : t.asset.Same u.asset
  metadata : (t.metadata.getD .null).Same (u.metadata.getD .null)
  inputs : t.inputs.map (fun i => (i.ownersBefore, i.fulfills)) = u.inputs.map (fun i => (i.ownersBefore, i.fulfills))
  outputs : t.outputs = u.outputs

theorem isProper_iff : t.isProper = true ↔
    (t.asset.content.isFinite = true ∧ t.asset.content.hasDistinctNames = true) ∧
    (t.metadata.getD .null).isFinite = true ∧ (t.metadata.getD .null).hasDistinctNames = true := by
  simp [isProper]

theorem isFinite_toJson (h : t.isProper = true) : t.toJson.isFinite = true := by
  obtain ⟨⟨hasset, -⟩, hmetadata, -⟩ := isProper_iff.1 h
  refine Json.isFinite_object ?_
  simp only [List.forall_mem_cons, List.not_mem_nil, false_implies, implies_true, and_true]
  refine ⟨Json.isFinite_ofOption (fun _ => rfl) _, rfl, rfl, ?_, hmetadata, Json.isFinite_map Input.isFinite_toJson _,
    Json.isFinite_map Output.isFinite_toJson _⟩
  cases ha : t.asset with
  | link id => rfl
  | data content =>
    rw [ha] at hasset
    exact Json.isFinite_object (List.forall_mem_singleton.2 hasset)

theorem sameContent_of_sorted_eq (ht : t.isProper = true) (hu : u.isProper = true)
    (h : t.unsigned.toJson.sorted = u.unsigned.toJson.sorted) : t.SameContent u := by
  obtain ⟨⟨-, hta⟩, -, htm⟩ := isProper_iff.1 ht
  obtain ⟨⟨-, hua⟩, -, hum⟩ := isProper_iff.1 hu
  have hfield := Json.lookup_of_sorted_eq (by simp) (by simp) h
  have hversion := hfield "version"
  have hoperation := hfield "operation"
  have hasset := hfield "asset"
  have hmetadata := hfield "metadata"
  have hinputs := hfield "inputs"
  have houtputs := hfield "outputs"
  simp [List.lookup_cons] at hversion hoperation hasset hmetadata hinputs houtputs
  refine ⟨Json.string_inj hversion, Operation.text_inj (Json.string_inj hoperation),
    Asset.same_of_toJson_sorted hta hua hasset, Json.same_of_sorted_eq htm hum hmetadata, ?_,
    Json.map_items_inj Output.eq_of_toJson_sorted houtputs⟩
  -- without the fulfillments the inputs are equal, so are what else they hold
  have hunsigned : t.unsigned.inputs = u.unsigned.inputs := Json.map_items_inj Input.eq_of_toJson_sorted hinputs
  have := congrArg (List.map fun i => (i.ownersBefore, i.fulfills)) hunsigned
  rwa [unsigned, unsigned, List.map_map, List.map_map] at this

end Transaction
end FederatedLedger
