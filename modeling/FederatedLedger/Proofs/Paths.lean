import FederatedLedger.Url.Basic
import FederatedLedger.Proofs.Hosts
import Mathlib.Data.List.DropRight

/-!
# Paths of addresses

The segments of a path that was read are clean (`Url.isClean_of_mem_segments`): nothing in them has to be written as a
percent triple, and none of them is a dot segment. So clean segments with slashes between them are read as themselves
(`Url.segments_pathChars`), also after the slashes at the end are left out.
-/

namespace FederatedLedger

/-! ## Percent triples -/

namespace Percent
variable {set cs : List Char} {P : Char → Prop}

theorem encode_eq_self (h : ∀ c ∈ cs, isUnwritten c = false ∧ c ∉ set) : encode set cs = cs := by
  induction cs with
  | nil => rfl
  | cons c cs ih =>
    rw [List.forall_mem_cons] at h
    have hc : (isUnwritten c || set.contains c) = false := by simpa using h.1
    have hcons : encode set (c :: cs) = [c] ++ encode set cs := by
      rw [encode, List.flatMap_cons, hc]
      rfl
    rw [hcons, ih h.2]
    rfl

theorem forall_mem_ofByte (hpercent : P '%') (hdigit : ∀ n < 16, P (Hex.upperDigit n)) (b : UInt8) :
    ∀ c ∈ ofByte b, P c := by
  have hb := b.toNat_lt
  rw [ofByte]
  simp only [List.forall_mem_cons]
  exact ⟨hpercent, hdigit _ (by omega), hdigit _ (Nat.mod_lt _ (by omega)), nofun⟩

/-- What is encoded has the characters of triples, and those of the text that need none. -/
theorem forall_mem_encode (hpercent : P '%') (hdigit : ∀ n < 16, P (Hex.upperDigit n))
    (hplain : ∀ c ∈ cs, isUnwritten c = false → c ∉ set → P c) : ∀ c ∈ encode set cs, P c := by
  intro c hc
  obtain ⟨d, hd, hc⟩ := List.mem_flatMap.1 hc
  split at hc
  · obtain ⟨b, -, hb⟩ := List.mem_flatMap.1 hc
    exact forall_mem_ofByte hpercent hdigit b c hb
  · rename_i hneed
    obtain rfl := List.mem_singleton.1 hc
    simp only [Bool.or_eq_true, List.contains_iff_mem, not_or, Bool.not_eq_true] at hneed
    exact hplain c hd hneed.1 hneed.2

end Percent

namespace Url
variable {s cs : List Char} {segs done : List (List Char)}

/-! ## Clean segments -/

/-- The characters that stand for themselves in a segment. -/
def IsPathChar (c : Char) : Prop := Percent.isUnwritten c = false ∧ c ∉ Percent.pathSet ∧ c ≠ '/' ∧ c ≠ '\\'

instance (c : Char) : Decidable (IsPathChar c) := inferInstanceAs (Decidable (_ ∧ _ ∧ _ ∧ _))

/-- A segment as it stands in a path. -/
structure IsClean (s : List Char) : Prop where
  chars : ∀ c ∈ s, IsPathChar c
  up : isUp s = false
  here : isHere s = false

instance (s : List Char) : Decidable (IsClean s) :=
  decidable_of_iff (s.all (fun c => IsPathChar c) = true ∧ isUp s = false ∧ isHere s = false)
    ⟨fun ⟨chars, up, here⟩ => ⟨by simpa using chars, up, here⟩, fun h => ⟨by simpa using h.chars, h.up, h.here⟩⟩

theorem encode_of_isClean (h : IsClean s) : Percent.encode Percent.pathSet s = s :=
  Percent.encode_eq_self fun c hc => ⟨(h.chars c hc).1, (h.chars c hc).2.1⟩

theorem isClean_nil : IsClean [] := ⟨nofun, by decide, by decide⟩

theorem forall_mem_up {P : List Char → Prop} (h : ∀ s ∈ done, P s) : ∀ s ∈ up done, P s := by
  cases done with
  | nil => exact h
  | cons s r =>
    rw [up]
    split
    · exact h
    · exact (List.forall_mem_cons.1 h).2

/-- What is left of a path are segments that are no dot segments, and perhaps an empty one at the end: `up` takes
segments away and puts none there. -/
theorem forall_mem_resolve {P : List Char → Prop} (hnil : P []) : ∀ {segs done : List (List Char)},
    (∀ s ∈ done, P s) → (∀ s ∈ segs, isUp s = false → isHere s = false → P s) → ∀ s ∈ resolve done segs, P s
  | [], done, hdone, _ => by simpa [resolve] using hdone
  | [s], done, hdone, hsegs => by
    have hreverse {l : List (List Char)} (hl : ∀ s ∈ l, P s) : ∀ s ∈ l.reverse, P s := fun s hs =>
      hl s (List.mem_reverse.1 hs)
    rw [resolve]
    split
    · exact hreverse (List.forall_mem_cons.2 ⟨hnil, forall_mem_up hdone⟩)
    · rename_i hup
      split
      · exact hreverse (List.forall_mem_cons.2 ⟨hnil, hdone⟩)
      · rename_i hhere
        have hs := hsegs s List.mem_cons_self (by simpa using hup) (by simpa using hhere)
        exact hreverse (List.forall_mem_cons.2 ⟨hs, hdone⟩)
  | s :: t :: r, done, hdone, hsegs => by
    rw [List.forall_mem_cons] at hsegs
    rw [resolve]
    split
    · exact forall_mem_resolve hnil (forall_mem_up hdone) hsegs.2
    · rename_i hup
      split
      · exact forall_mem_resolve hnil hdone hsegs.2
      · rename_i hhere
        have hs := hsegs.1 (by simpa using hup) (by simpa using hhere)
        exact forall_mem_resolve hnil (List.forall_mem_cons.2 ⟨hs, hdone⟩) hsegs.2

theorem resolve_ne_nil : ∀ {segs done : List (List Char)}, segs ≠ [] → resolve done segs ≠ []
  | [], _, h => absurd rfl h
  | [s], done, _ => by
    rw [resolve]
    split
    · simp
    · split <;> simp
  | s :: t :: r, done, _ => by
    rw [resolve]
    split
    · exact resolve_ne_nil (List.cons_ne_nil t r)
    · split <;> exact resolve_ne_nil (List.cons_ne_nil t r)

/-- Nothing is left out where no dot segments are. -/
theorem resolve_of_isClean : ∀ {segs done : List (List Char)}, (∀ s ∈ segs, IsClean s) →
    resolve done segs = done.reverse ++ segs
  | [], done, _ => by simp [resolve]
  | [s], done, h => by
    have hs := h s List.mem_cons_self
    simp [resolve, hs.up, hs.here]
  | s :: t :: r, done, h => by
    rw [List.forall_mem_cons] at h
    rw [resolve, if_neg (by simp [h.1.up]), if_neg (by simp [h.1.here]), resolve_of_isClean h.2]
    simp

/-- Clean segments in front stay in front. -/
theorem resolve_append : ∀ {base segs done : List (List Char)}, (∀ s ∈ base, IsClean s) → segs ≠ [] →
    resolve done (base ++ segs) = resolve (base.reverse ++ done) segs
  | [], _, _, _, _ => rfl
  | s :: base, segs, done, h, hne => by
    rw [List.forall_mem_cons] at h
    obtain ⟨t, r, hrest⟩ := List.exists_cons_of_ne_nil (List.append_ne_nil_of_right_ne_nil base hne)
    rw [List.cons_append, hrest, resolve, if_neg (by simp [h.1.up]), if_neg (by simp [h.1.here]), ← hrest,
      resolve_append h.2 hne, List.reverse_cons, List.append_assoc, List.singleton_append]

/-- The last segment stays, but for a dot segment, behind which an empty one comes last. -/
theorem getLast?_resolve : ∀ {segs done : List (List Char)}, ∀ s ∈ segs.getLast?,
    (resolve done segs).getLast? = some (if isUp s || isHere s then [] else s)
  | [], _, s, h => by cases h
  | [t], done, s, h => by
    obtain rfl : t = s := Option.some.inj h
    rw [resolve]
    by_cases hup : isUp t = true
    · simp [hup]
    · by_cases hhere : isHere t = true <;> simp [hup, hhere]
  | t :: u :: r, done, s, h => by
    rw [List.getLast?_cons_cons] at h
    rw [resolve]
    split
    · exact getLast?_resolve s h
    · split <;> exact getLast?_resolve s h

/-! ## Reading and writing -/

/-- What separates segments. -/
def isSlash (c : Char) : Bool := c = '/' || c = '\\'

theorem isSlash_of_isClean (h : IsClean s) : ∀ c ∈ s, isSlash c = false := fun c hc => by
  simp [isSlash, (h.chars c hc).2.2]

theorem segments_eq (cs : List Char) : segments cs = resolve []
    ((splitAtEach isSlash (match cs with
      | c :: r => if isSlash c then r else c :: r
      | [] => [])).map (Percent.encode Percent.pathSet)) := rfl

/-- The segments of a path are clean. -/
theorem isClean_of_mem_segments : ∀ s ∈ segments cs, IsClean s := by
  rw [segments_eq]
  apply forall_mem_resolve isClean_nil (by simp)
  simp only [List.forall_mem_map]
  intro part hpart hup hhere
  refine ⟨Percent.forall_mem_encode (by decide) (by decide) ?_, hup, hhere⟩
  intro c hc hunwritten hset
  have hslash := (forall_mem_of_mem_splitAtEach hpart c hc).2
  simp only [isSlash, Bool.or_eq_false_iff, decide_eq_false_iff_not] at hslash
  exact ⟨hunwritten, hset, hslash⟩

theorem segments_ne_nil (cs : List Char) : segments cs ≠ [] := by
  rw [segments_eq]
  apply resolve_ne_nil
  simp [splitAtEach_ne_nil]

/-- A slash in front of each segment. -/
def pathChars (segs : List (List Char)) : List Char := segs.flatMap fun s => '/' :: s

theorem pathChars_eq (h : segs ≠ []) : pathChars segs = '/' :: joinWith ['/'] segs := by
  induction segs with
  | nil => exact absurd rfl h
  | cons s segs ih =>
    cases segs with
    | nil => simp [pathChars, joinWith]
    | cons t segs =>
      rw [pathChars, List.flatMap_cons, ← pathChars, ih (List.cons_ne_nil t segs)]
      simp [joinWith]

/-- Behind clean segments a path is cut and resolved as it would be in their place. -/
theorem segments_append {base : List (List Char)} (h : ∀ s ∈ base, IsClean s) (body : List Char) :
    segments (pathChars base ++ '/' :: body) =
      resolve base.reverse ((splitAtEach isSlash body).map (Percent.encode Percent.pathSet)) := by
  have hslash : isSlash '/' = true := by decide
  have hsplit : ∃ text, pathChars base ++ '/' :: body = '/' :: text ∧
      splitAtEach isSlash text = base ++ splitAtEach isSlash body := by
    induction base with
    | nil => exact ⟨body, rfl, rfl⟩
    | cons s base ih =>
      rw [List.forall_mem_cons] at h
      obtain ⟨text, htext, hparts⟩ := ih h.2
      refine ⟨s ++ '/' :: text, ?_, ?_⟩
      · rw [← htext]
        simp [pathChars]
      · rw [splitAtEach_append_cons (isSlash_of_isClean h.1) hslash, hparts, List.cons_append]
  obtain ⟨text, htext, hparts⟩ := hsplit
  have hencode : base.map (Percent.encode Percent.pathSet) = base := by
    rw [List.map_congr_left fun s hs => encode_of_isClean (h s hs), List.map_id']
  rw [segments_eq, htext]
  dsimp only
  rw [if_pos hslash, hparts, List.map_append, hencode,
    resolve_append h (by simp [splitAtEach_ne_nil]), List.append_nil]

/-- Clean segments are read as themselves. -/
theorem segments_pathChars (hne : segs ≠ []) (h : ∀ s ∈ segs, IsClean s) : segments (pathChars segs) = segs := by
  obtain ⟨base, s, rfl⟩ := (List.eq_nil_or_concat' segs).resolve_left hne
  have hlast : ∀ t ∈ [s], IsClean t := (List.forall_mem_append.1 h).2
  have hs := List.forall_mem_singleton.1 hlast
  have hchars : pathChars (base ++ [s]) = pathChars base ++ '/' :: s := by simp [pathChars]
  rw [hchars, segments_append (List.forall_mem_append.1 h).1, splitAtEach_of_forall (isSlash_of_isClean hs),
    List.map_singleton, encode_of_isClean hs, resolve_of_isClean hlast, List.reverse_reverse]

/-- Without a path there is one empty segment. -/
theorem segments_nil : segments [] = [[]] := by decide

/-- The segments up to the last one that is not empty. -/
def trimmed (segs : List (List Char)) : List (List Char) := segs.rdropWhile List.isEmpty

/-- Leaving out slashes at the end leaves out empty segments. -/
theorem dropTrailing_pathChars (h : ∀ s ∈ segs, '/' ∉ s) :
    dropTrailing (· == '/') (pathChars segs) = pathChars (trimmed segs) := by
  induction segs using List.reverseRecOn with
  | nil => rfl
  | append_singleton segs s ih =>
    rw [List.forall_mem_append, List.forall_mem_singleton] at h
    have happend : pathChars (segs ++ [s]) = pathChars segs ++ '/' :: s := by simp [pathChars]
    rw [happend, trimmed, List.rdropWhile_concat]
    cases s using List.reverseRecOn with
    | nil =>
      rw [dropTrailing_append_singleton]
      simpa [trimmed] using ih h.1
    | append_singleton s c =>
      have hc : (c == '/') = false := beq_eq_false_iff_ne.2 fun hc => h.2 (by simp [hc])
      rw [← List.cons_append, ← List.append_assoc, dropTrailing_append_singleton, hc]
      simp [happend]

end Url
end FederatedLedger
