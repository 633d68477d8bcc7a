import FederatedLedger.Entries
import Mathlib.Data.List.Basic

/-!
# Entries in ascending order

Entries of distinct names are told by what can be looked up in them: ordering keeps that (`lookup_ordered`), putting
entries in gives ascending names (`Ascending.insert`), and entries in ascending order are equal if every look-up is
(`Ascending.ext`).
-/

namespace FederatedLedger

namespace Entries
variable {α : Type}

theorem lookup_eq_none {es : Entries α} {name : String} (h : name ∉ es.map Prod.fst) : es.lookup name = none := by
  rw [List.lookup_eq_none_iff]
  intro e he
  have hne : name ≠ e.1 := fun heq => h (heq ▸ List.mem_map_of_mem he)
  simpa using hne

theorem lookup_cons_self (es : Entries α) (name : String) (a : α) : List.lookup name ((name, a) :: es) = some a := by
  simp

theorem lookup_cons_of_ne (es : Entries α) {name other : String} (h : name ≠ other) (a : α) :
    List.lookup name ((other, a) :: es) = es.lookup name := by
  have hb : (name == other) = false := by simp [h]
  rw [List.lookup_cons, hb]

theorem mem_of_lookup {es : Entries α} {name : String} {a : α} (h : es.lookup name = some a) : (name, a) ∈ es := by
  obtain ⟨before, after, rfl, -⟩ := List.lookup_eq_some_iff.1 h
  simp

theorem lookup_of_mem {es : Entries α} (h : (es.map Prod.fst).Nodup) {e : String × α} (he : e ∈ es) :
    es.lookup e.1 = some e.2 := by
  induction es with
  | nil => cases he
  | cons b es ih =>
    obtain ⟨hb, hes⟩ := List.nodup_cons.1 h
    rcases List.mem_cons.1 he with rfl | he
    · exact lookup_cons_self es _ _
    · have hne : e.1 ≠ b.1 := fun heq => hb (heq ▸ List.mem_map_of_mem he)
      rw [← ih hes he]
      exact lookup_cons_of_ne es hne b.2

theorem lookup_reverse {es : Entries α} (h : (es.map Prod.fst).Nodup) (name : String) :
    es.reverse.lookup name = es.lookup name := by
  induction es with
  | nil => rfl
  | cons e es ih =>
    obtain ⟨n, a⟩ := e
    obtain ⟨hn, hes⟩ := List.nodup_cons.1 h
    rw [List.reverse_cons, List.lookup_append, ih hes]
    by_cases heq : name = n
    · subst heq
      rw [lookup_eq_none hn, lookup_cons_self, lookup_cons_self, Option.none_or]
    · rw [lookup_cons_of_ne _ heq, lookup_cons_of_ne _ heq, List.lookup_nil, Option.or_none]

/-- Entries of distinct names win over those that they are put into. -/
theorem lookup_overlay_of_nodup {upper : Entries α} (h : (upper.map Prod.fst).Nodup) (under : Entries α) (name : String) :
    (overlay under upper).lookup name = (upper.lookup name).or (under.lookup name) := by
  rw [lookup_overlay, lookup_reverse h]

/-- Ordering keeps the entries of distinct names. -/
theorem lookup_ordered {es : Entries α} (h : (es.map Prod.fst).Nodup) (name : String) :
    (ordered es).lookup name = es.lookup name := by
  rw [ordered, lookup_overlay_of_nodup h, List.lookup_nil, Option.or_none]

theorem mem_insert {es : Entries α} {name : String} {a : α} {e : String × α} (h : e ∈ es.insert name a) :
    e = (name, a) ∨ e ∈ es := by
  induction es with
  | nil => exact .inl (List.mem_singleton.1 h)
  | cons b es ih =>
    obtain ⟨n, b⟩ := b
    simp only [insert] at h
    split at h
    · exact List.mem_cons.1 h
    · split at h
      · rcases List.mem_cons.1 h with h | h
        · exact .inl h
        · exact .inr (List.mem_cons_of_mem _ h)
      · rcases List.mem_cons.1 h with h | h
        · exact .inr (h ▸ List.mem_cons_self)
        · exact (ih h).imp_right (List.mem_cons_of_mem _)

theorem mem_overlay {upper under : Entries α} {e : String × α} (h : e ∈ overlay under upper) : e ∈ upper ∨ e ∈ under := by
  induction upper generalizing under with
  | nil => exact .inr h
  | cons u upper ih =>
    rw [overlay_cons] at h
    rcases ih h with h | h
    · exact .inl (List.mem_cons_of_mem _ h)
    · rcases mem_insert h with rfl | h
      · exact .inl List.mem_cons_self
      · exact .inr h

/-- Ordering adds no entry. -/
theorem mem_of_mem_ordered {es : Entries α} {e : String × α} (h : e ∈ ordered es) : e ∈ es :=
  (mem_overlay h).resolve_right List.not_mem_nil

/-! ## Ascending names -/

/-- The names stand in ascending order, each once. -/
def Ascending (es : Entries α) : Prop := (es.map Prod.fst).Pairwise (· < ·)

instance (es : Entries α) : Decidable es.Ascending := inferInstanceAs (Decidable (List.Pairwise _ _))

theorem Ascending.insert {es : Entries α} (h : es.Ascending) (name : String) (a : α) :
    (es.insert name a).Ascending := by
  induction es with
  | nil => exact List.pairwise_singleton _ _
  | cons e es ih =>
    obtain ⟨n, b⟩ := e
    obtain ⟨hn, hes⟩ := List.pairwise_cons.1 h
    rw [Entries.insert]
    by_cases hlt : name < n
    · rw [if_pos hlt]
      exact List.pairwise_cons.2 ⟨List.forall_mem_cons.2 ⟨hlt, fun k hk => String.lt_trans hlt (hn k hk)⟩, h⟩
    · by_cases heq : name = n
      · subst heq
        rw [if_neg hlt, if_pos rfl]
        exact List.pairwise_cons.2 ⟨hn, hes⟩
      · rw [if_neg hlt, if_neg heq]
        refine List.pairwise_cons.2 ⟨?_, ih hes⟩
        have hgt : n < name := Std.lt_of_le_of_ne (String.not_lt.1 hlt) (Ne.symm heq)
        refine List.forall_mem_map.2 fun e he => ?_
        rcases mem_insert he with rfl | he
        · exact hgt
        · exact hn _ (List.mem_map_of_mem he)

theorem Ascending.overlay {under : Entries α} (h : under.Ascending) (upper : Entries α) :
    (Entries.overlay under upper).Ascending := by
  induction upper generalizing under with
  | nil => exact h
  | cons e upper ih => exact ih (h.insert e.1 e.2)

theorem ascending_nil : Ascending ([] : Entries α) := .nil

theorem ascending_ordered (es : Entries α) : (ordered es).Ascending := ascending_nil.overlay es

theorem Ascending.nodup {es : Entries α} (h : es.Ascending) : (es.map Prod.fst).Nodup :=
  List.Pairwise.imp (fun {a b} (hlt : a < b) (heq : a = b) => String.lt_irrefl b (heq ▸ hlt)) h


/-- Entries in order are told by what can be looked up in them. -/
theorem Ascending.ext : ∀ {es fs : Entries α}, es.Ascending → fs.Ascending →
    (∀ name, es.lookup name = fs.lookup name) → es = fs
  | [], [], _, _, _ => rfl
  | [], (n, a) :: fs, _, _, h => by simpa using h n
  | (n, a) :: es, [], _, _, h => by simpa using h n
  | (n, a) :: es, (m, b) :: fs, hes, hfs, h => by
    obtain ⟨hn, hes'⟩ := List.pairwise_cons.1 hes
    obtain ⟨hm, hfs'⟩ := List.pairwise_cons.1 hfs
    have hmem {k : String} {c : α} {gs : Entries α} (h : gs.lookup k = some c) : k ∈ gs.map Prod.fst :=
      List.mem_map_of_mem (mem_of_lookup h)
    -- if the first names were not the same, each would come after the other
    have hname : n = m := by
      by_cases hnm : n = m
      · exact hnm
      · have hleft := h n
        have hright := h m
        rw [lookup_cons_self, lookup_cons_of_ne _ hnm] at hleft
        rw [lookup_cons_self, lookup_cons_of_ne _ (Ne.symm hnm)] at hright
        exact absurd (hm n (hmem hleft.symm)) (String.lt_asymm (hn m (hmem hright)))
    subst hname
    have hvalue := h n
    rw [lookup_cons_self, lookup_cons_self] at hvalue
    obtain rfl := Option.some.inj hvalue
    congr 1
    refine Ascending.ext hes' hfs' fun name => ?_
    by_cases heq : name = n
    · subst heq
      have hnone {gs : Entries α} (hgs : ∀ k ∈ gs.map Prod.fst, name < k) : gs.lookup name = none :=
        lookup_eq_none fun hmem => String.lt_irrefl name (hgs name hmem)
      rw [hnone hn, hnone hm]
    · have hrest := h name
      rwa [lookup_cons_of_ne _ heq, lookup_cons_of_ne _ heq] at hrest

/-- Entries in order stay as they are. -/
theorem Ascending.ordered_eq {es : Entries α} (h : es.Ascending) : ordered es = es :=
  (ascending_ordered es).ext h fun name => lookup_ordered h.nodup name

theorem mem_overlay_upper {under upper : Entries α} (h : upper.Ascending) {e : String × α} (he : e ∈ upper) :
    e ∈ overlay under upper := by
  refine mem_of_lookup ?_
  rw [lookup_overlay_of_nodup h.nodup, lookup_of_mem h.nodup he, Option.some_or]

theorem mem_overlay_under {under upper : Entries α} (hunder : under.Ascending) (hupper : upper.Ascending)
    {e : String × α} (he : e ∈ under) (hnone : e.1 ∉ upper.map Prod.fst) : e ∈ overlay under upper := by
  refine mem_of_lookup ?_
  rw [lookup_overlay_of_nodup hupper.nodup, lookup_eq_none hnone, Option.none_or, lookup_of_mem hunder.nodup he]

/-- From the end, an entry is found first if no later name passes the test. -/
theorem Ascending.find?_reverse {es : Entries α} (h : es.Ascending) {p : String × α → Bool} {e : String × α}
    (he : e ∈ es) (hp : p e = true) (hlast : ∀ f ∈ es, p f = true → f.1 ≤ e.1) : es.reverse.find? p = some e := by
  induction es with
  | nil => cases he
  | cons b es ih =>
    obtain ⟨hb, hes⟩ := List.pairwise_cons.1 h
    obtain ⟨-, hrest⟩ := List.forall_mem_cons.1 hlast
    rw [List.reverse_cons, List.find?_append]
    rcases List.mem_cons.1 he with rfl | he
    · have hnone : es.reverse.find? p = none := by
        refine List.find?_eq_none.2 fun f hf hpf => ?_
        have hf : f ∈ es := List.mem_reverse.1 hf
        exact String.not_lt.2 (hrest f hf hpf) (hb f.1 (List.mem_map_of_mem hf))
      rw [hnone, Option.none_or, List.find?_singleton, if_pos hp]
    · rw [ih hes he hrest, Option.some_or]

end Entries

end FederatedLedger
