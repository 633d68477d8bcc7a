import FederatedLedger.Proofs.Delimited
import FederatedLedger.Proofs.Ordered

/-!
# The canonical text tells the document

Two JSON values are the same document if they differ only in the order in which objects name their members
(`Json.Same`). `Json.sorted` forgets no more than that (`same_of_sorted_eq`): in an object that names no member twice
every member can still be looked up (`lookup_members_sorted`). As the text of a value tells the value, so the
canonical text tells the document (`same_of_canonicalText_eq`).
-/

namespace FederatedLedger

namespace Json

/-! ## What ordering keeps -/

theorem sortedItems_eq (items : List Json) : sortedItems items = items.map sorted := by
  induction items with
  | nil => rfl
  | cons v items ih => rw [sortedItems, ih, List.map_cons]

theorem sortedMembers_eq (members : List (String × Json)) :
    sortedMembers members = members.map fun (k, v) => (k, v.sorted) := by
  induction members with
  | nil => rfl
  | cons m members ih => rw [sortedMembers, ih, List.map_cons]

variable {p : Json → Bool}

theorem allItems_iff {items : List Json} : allItems p items = true ↔ ∀ v ∈ items, v.all p = true := by
  induction items with
  | nil => simp [allItems]
  | cons v items ih => simp [allItems, ih]

theorem allMembers_iff {members : List (String × Json)} :
    allMembers p members = true ↔ ∀ m ∈ members, m.2.all p = true := by
  induction members with
  | nil => simp [allMembers]
  | cons m members ih => simp [allMembers, ih]

mutual

/-- A stronger test passes less. -/
theorem all_mono {p q : Json → Bool} (hpq : ∀ v, p v = true → q v = true) : ∀ {v : Json}, v.all p = true → v.all q = true
  | .null, h => hpq _ h
  | .bool _, h => hpq _ h
  | .number _, h => hpq _ h
  | .string _, h => hpq _ h
  | .array _, h => by
    obtain ⟨hv, hitems⟩ := Bool.and_eq_true_iff.1 h
    exact Bool.and_eq_true_iff.2 ⟨hpq _ hv, allItems_mono hpq hitems⟩
  | .object _, h => by
    obtain ⟨hv, hmembers⟩ := Bool.and_eq_true_iff.1 h
    exact Bool.and_eq_true_iff.2 ⟨hpq _ hv, allMembers_mono hpq hmembers⟩

theorem allItems_mono {p q : Json → Bool} (hpq : ∀ v, p v = true → q v = true) : ∀ {items : List Json},
    allItems p items = true → allItems q items = true
  | [], _ => rfl
  | _ :: _, h => by
    obtain ⟨hv, hitems⟩ := Bool.and_eq_true_iff.1 h
    exact Bool.and_eq_true_iff.2 ⟨all_mono hpq hv, allItems_mono hpq hitems⟩

theorem allMembers_mono {p q : Json → Bool} (hpq : ∀ v, p v = true → q v = true) : ∀ {members : List (String × Json)},
    allMembers p members = true → allMembers q members = true
  | [], _ => rfl
  | (_, _) :: _, h => by
    obtain ⟨hv, hmembers⟩ := Bool.and_eq_true_iff.1 h
    exact Bool.and_eq_true_iff.2 ⟨all_mono hpq hv, allMembers_mono hpq hmembers⟩

end

theorem lookup_sortedMembers (members : List (String × Json)) (name : String) :
    (sortedMembers members).lookup name = (members.lookup name).map sorted := by
  induction members with
  | nil => rfl
  | cons m members ih =>
    obtain ⟨k, v⟩ := m
    rw [sortedMembers, List.lookup_cons, List.lookup_cons, ih]
    by_cases h : name == k <;> simp [h]

mutual

/-- Ordering keeps a test that asks nothing of arrays and objects themselves. -/
theorem all_sorted (harray : ∀ items, p (.array items) = true) (hobject : ∀ members, p (.object members) = true) :
    ∀ {v : Json}, v.all p = true → v.sorted.all p = true
  | .null, h => h
  | .bool _, h => h
  | .number _, h => h
  | .string _, h => h
  | .array items, h => by
    obtain ⟨-, hitems⟩ := Bool.and_eq_true_iff.1 h
    exact Bool.and_eq_true_iff.2 ⟨harray _, allItems_sorted harray hobject hitems⟩
  | .object members, h => by
    obtain ⟨-, hmembers⟩ := Bool.and_eq_true_iff.1 h
    have hsorted := allMembers_iff.1 (allMembers_sorted harray hobject hmembers)
    exact Bool.and_eq_true_iff.2
      ⟨hobject _, allMembers_iff.2 fun m hm => hsorted m (Entries.mem_of_mem_ordered hm)⟩

theorem allItems_sorted (harray : ∀ items, p (.array items) = true) (hobject : ∀ members, p (.object members) = true) :
    ∀ {items : List Json}, allItems p items = true → allItems p (sortedItems items) = true
  | [], h => h
  | v :: items, h => by
    obtain ⟨hv, hitems⟩ := Bool.and_eq_true_iff.1 h
    exact Bool.and_eq_true_iff.2 ⟨all_sorted harray hobject hv, allItems_sorted harray hobject hitems⟩

theorem allMembers_sorted (harray : ∀ items, p (.array items) = true)
    (hobject : ∀ members, p (.object members) = true) : ∀ {members : List (String × Json)},
    allMembers p members = true → allMembers p (sortedMembers members) = true
  | [], h => h
  | (_, v) :: members, h => by
    obtain ⟨hv, hmembers⟩ := Bool.and_eq_true_iff.1 h
    exact Bool.and_eq_true_iff.2 ⟨all_sorted harray hobject hv, allMembers_sorted harray hobject hmembers⟩

end

theorem isFinite_sorted {v : Json} (h : v.isFinite = true) : v.sorted.isFinite = true :=
  all_sorted (fun _ => rfl) (fun _ => rfl) h

/-! ## Documents -/

/-- The same document: objects have the same members, in whatever order. -/
inductive Same : Json → Json → Prop
  | null : Same .null .null
  | bool (b : Bool) : Same (.bool b) (.bool b)
  | number (n : Number) : Same (.number n) (.number n)
  | string (s : String) : Same (.string s) (.string s)
  | array {vs ws : List Json} (length : vs.length = ws.length)
    (items : ∀ (i : Nat) v w, vs[i]? = some v → ws[i]? = some w → Same v w) : Same (.array vs) (.array ws)
  | object {ms ns : List (String × Json)} (names : ∀ name, (ms.lookup name).isSome = (ns.lookup name).isSome)
    (members : ∀ name v w, ms.lookup name = some v → ns.lookup name = some w → Same v w) :
    Same (.object ms) (.object ns)

/-- Whether the value itself names no member twice. -/
def namesOnce : Json → Bool
  | .object members => (members.map Prod.fst).Nodup
  | _ => true

/-- Whether no object in the value names a member twice. -/
def hasDistinctNames : Json → Bool := all namesOnce

theorem names_sortedMembers (members : List (String × Json)) :
    (sortedMembers members).map Prod.fst = members.map Prod.fst := by
  rw [sortedMembers_eq, List.map_map]; rfl

/-- Where no member is named twice, each can be looked up after ordering. -/
theorem lookup_members_sorted {members : List (String × Json)} (h : (members.map Prod.fst).Nodup) (name : String) :
    (Entries.ordered (sortedMembers members)).lookup name = (members.lookup name).map sorted := by
  rw [Entries.lookup_ordered (by rwa [names_sortedMembers]), lookup_sortedMembers]

theorem lookup_of_sorted_eq {ms ns : List (String × Json)} (hms : (ms.map Prod.fst).Nodup)
    (hns : (ns.map Prod.fst).Nodup) (h : (object ms).sorted = (object ns).sorted) (name : String) :
    (ms.lookup name).map sorted = (ns.lookup name).map sorted := by
  rw [← lookup_members_sorted hms, ← lookup_members_sorted hns, object.inj h]

mutual

/-- **Ordering forgets only the order of members**, where no object names a member twice. -/
theorem same_of_sorted_eq : ∀ {v w : Json}, v.hasDistinctNames = true → w.hasDistinctNames = true →
    v.sorted = w.sorted → v.Same w
  | .null, w, _, _, h => by
    cases w <;> cases h
    exact .null
  | .bool b, w, _, _, h => by
    cases w <;> cases h
    exact .bool b
  | .number n, w, _, _, h => by
    cases w <;> cases h
    exact .number n
  | .string s, w, _, _, h => by
    cases w <;> cases h
    exact .string s
  | .array vs, w, hv, hw, h => by
    cases w with
    | array ws =>
      have hitems : sortedItems vs = sortedItems ws := array.inj h
      refine .array ?_ (same_of_sortedItems_eq hv hw hitems)
      rw [sortedItems_eq, sortedItems_eq] at hitems
      simpa using congrArg List.length hitems
    | _ => cases h
  | .object ms, w, hv, hw, h => by
    cases w with
    | object ns =>
      obtain ⟨hms, hall⟩ := Bool.and_eq_true_iff.1 hv
      obtain ⟨hns, hall'⟩ := Bool.and_eq_true_iff.1 hw
      have hlookup := lookup_of_sorted_eq (of_decide_eq_true hms) (of_decide_eq_true hns) h
      refine .object (fun name => ?_) fun name v w hmv hnw => ?_
      · have := congrArg Option.isSome (hlookup name)
        simpa using this
      · have hsorted := hlookup name
        rw [hmv, hnw] at hsorted
        have hw := allMembers_iff.1 hall' _ (Entries.mem_of_lookup hnw)
        exact same_of_member_sorted_eq hall hmv hw (Option.some.inj hsorted)
    | _ => cases h

theorem same_of_sortedItems_eq : ∀ {vs ws : List Json}, allItems namesOnce vs = true → allItems namesOnce ws = true →
    sortedItems vs = sortedItems ws → ∀ (i : Nat) v w, vs[i]? = some v → ws[i]? = some w → v.Same w
  | [], _, _, _, _, i, v, w, hv, _ => by simp at hv
  | _ :: _, [], _, _, _, i, v, w, _, hw => by simp at hw
  | v :: vs, w :: ws, hall, hall', h, i, v', w', hv', hw' => by
    obtain ⟨hv, hvs⟩ := Bool.and_eq_true_iff.1 hall
    obtain ⟨hw, hws⟩ := Bool.and_eq_true_iff.1 hall'
    obtain ⟨hhead, htail⟩ := List.cons.inj h
    cases i with
    | zero =>
      cases hv'
      cases hw'
      exact same_of_sorted_eq hv hw hhead
    | succ i => exact same_of_sortedItems_eq hvs hws htail i v' w' hv' hw'

theorem same_of_member_sorted_eq : ∀ {ms : List (String × Json)}, allMembers namesOnce ms = true →
    ∀ {name : String} {v w : Json}, ms.lookup name = some v → w.hasDistinctNames = true → v.sorted = w.sorted → v.Same w
  | [], _, name, v, w, hv, _, _ => by cases hv
  | (k, u) :: ms, hall, name, v, w, hv, hw, h => by
    obtain ⟨hu, hms⟩ := Bool.and_eq_true_iff.1 hall
    rw [List.lookup_cons] at hv
    split at hv
    · cases hv
      exact same_of_sorted_eq hu hw h
    · exact same_of_member_sorted_eq hms hv hw h

end

/-! ## The canonical text -/

/-- **The canonical text tells the document**, if its doubles are finite and no object names a member twice. -/
theorem same_of_canonicalText_eq {v w : Json} (hv : v.isFinite = true) (hw : w.isFinite = true)
    (hv' : v.hasDistinctNames = true) (hw' : w.hasDistinctNames = true) (h : v.canonicalText = w.canonicalText) :
    v.Same w := by
  have hend : EndsNumber [] := nofun
  have hchars : v.sorted.chars ++ [] = w.sorted.chars ++ [] := by
    rw [String.ofList_injective h]
  exact same_of_sorted_eq hv' hw'
    (chars_append_inj _ _ (isFinite_sorted hv) (isFinite_sorted hw) hend hend hchars).1

end Json
end FederatedLedger
