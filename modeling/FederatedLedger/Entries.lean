/-!
# Entries ordered by name

Lists of named things in the order of their names, which is the order of their UTF-8 bytes. A name stands
in such a list at most once: putting an entry in replaces the one that has its name. `lookup_overlay` says
which entry counts when lists are put together.
-/

namespace FederatedLedger

/-- Named things. -/
abbrev Entries (α : Type) := List (String × α)

namespace Entries

/-- Puts an entry into its place, instead of the one with its name (`BTreeMap::insert`). -/
def insert (name : String) (a : α) : Entries α → Entries α
  | [] => [(name, a)]
  | (n, b) :: rest =>
    if name < n then (name, a) :: (n, b) :: rest
    else if name = n then (name, a) :: rest
    else (n, b) :: insert name a rest

/-- Entries with others put into them, in their order (`BTreeMap::extend`). -/
def overlay (under upper : Entries α) : Entries α :=
  upper.foldl (fun es e => es.insert e.1 e.2) under

/-- Named things in the order of their names, the last of each name. -/
def ordered (es : Entries α) : Entries α := overlay [] es

theorem overlay_nil (under : Entries α) : overlay under [] = under := rfl

theorem overlay_cons (under upper : Entries α) (e : String × α) :
    overlay under (e :: upper) = overlay (under.insert e.1 e.2) upper := rfl

theorem lookup_insert_self (name : String) (a : α) (es : Entries α) :
    (es.insert name a).lookup name = some a := by
  induction es with
  | nil => simp [insert]
  | cons e rest ih =>
    obtain ⟨n, b⟩ := e
    simp only [insert]
    split
    · simp
    · split
      · simp
      · rename_i h
        have hb : (name == n) = false := by simp [h]
        simpa [List.lookup_cons, hb] using ih

theorem lookup_insert_of_ne {name other : String} (h : other ≠ name) (a : α) (es : Entries α) :
    (es.insert name a).lookup other = es.lookup other := by
  have hb : (other == name) = false := by simp [h]
  induction es with
  | nil => simp [insert, List.lookup_cons, hb]
  | cons e rest ih =>
    obtain ⟨n, b⟩ := e
    simp only [insert]
    split
    · simp [List.lookup_cons, hb]
    · split
      · rename_i hn
        subst hn
        simp [List.lookup_cons, hb]
      · simp only [List.lookup_cons, ih]

/-- The last entry of a name wins. -/
theorem lookup_overlay (name : String) (under upper : Entries α) :
    (overlay under upper).lookup name = (upper.reverse.lookup name).or (under.lookup name) := by
  induction upper generalizing under with
  | nil => simp [overlay_nil]
  | cons e rest ih =>
    rw [overlay_cons, ih, List.reverse_cons, List.lookup_append, Option.or_assoc]
    congr 1
    obtain ⟨n, a⟩ := e
    by_cases h : name = n
    · subst h
      simp [lookup_insert_self]
    · have hb : (name == n) = false := by simp [h]
      simp [lookup_insert_of_ne h, List.lookup_cons, hb]

end Entries
end FederatedLedger
