import FederatedLedger.Proofs.Punycode
import FederatedLedger.Url.Idna
import Mathlib.Data.List.Forall2
import Mathlib.Data.Option.Basic

/-!
# The ASCII form of a host name

The ASCII form of a host name is its own ASCII form (`toAscii?_toAscii?`). It holds no capital letter and nothing beyond
ASCII, so folding and composing leave it alone; it is cut into the labels that were joined; and a label in Punycode
stands for the label that it was made of, which was found to be usable.
-/

namespace FederatedLedger

/-- A list is gone through with success iff each of its elements is. -/
theorem mapM_eq_some {α β : Type} {f : α → Option β} {as : List α} {bs : List β} :
    as.mapM f = some bs ↔ List.Forall₂ (fun a b => f a = some b) as bs := by
  induction as generalizing bs with
  | nil => cases bs <;> simp
  | cons a as ih =>
    rw [List.mapM_cons]
    cases ha : f a with
    | none => cases bs <;> simp [ha]
    | some b =>
      cases has : as.mapM f with
      | none => cases bs <;> simp [ha, ← ih, has]
      | some rest => cases bs <;> simp [ha, ← ih, has]

/-! ## Labels -/

namespace Idna
variable {cs label ascii : List Char} {labels meant : List (List Char)}

theorem isAscii_iff : isAscii cs = true ↔ ∀ c ∈ cs, c.toNat < 0x80 := by
  simp [isAscii]

theorem isAscii_labelChars (label : List Char) : isAscii (labelChars label) = true := by
  rw [labelChars]
  split
  · assumption
  · have hencode : ∀ c ∈ Punycode.encode label, c.toNat < 0x80 :=
      Punycode.forall_mem_encode (fun _ _ h => h) (by decide) (by decide)
    exact isAscii_iff.2 (List.forall_mem_append.2 ⟨by simp [mark], hencode⟩)

/-- Labels are made without dots. -/
theorem dot_not_mem_labelChars (h : '.' ∉ label) : '.' ∉ labelChars label := by
  rw [labelChars]
  split
  · exact h
  · have hencode : ∀ c ∈ Punycode.encode label, c ≠ '.' :=
      Punycode.forall_mem_encode (fun c hc _ hdot => h (hdot ▸ hc)) (by decide) (by decide)
    exact fun hmem => (List.mem_append.1 hmem).elim (by decide) fun hmem => hencode '.' hmem rfl

theorem labelChars_of_isAscii (h : isAscii label = true) : labelChars label = label := by rw [labelChars, if_pos h]

/-- A label that stands for something stands for the same in ASCII. -/
theorem meaning?_labelChars (h : meaning? label = some cs) : meaning? (labelChars label) = some cs := by
  cases hascii : isAscii label with
  | true => rwa [labelChars_of_isAscii hascii]
  | false =>
    -- a label beyond ASCII has no mark of its own, so it stands for itself
    rw [meaning?, hascii] at h
    split at h
    · simp [guard] at h
    · rw [if_neg (by simp)] at h
      obtain ⟨hvalid, rfl⟩ : isValid label = true ∧ label = cs := by simpa using h
      have hlabel : isAscii (mark ++ Punycode.encode label) = true := by
        have := isAscii_labelChars label
        rwa [labelChars, if_neg (by simp [hascii])] at this
      rw [labelChars, if_neg (by simp [hascii]), meaning?, if_pos (List.isPrefixOf_iff_prefix.2 (List.prefix_append _ _))]
      have hdrop : (mark ++ Punycode.encode label).drop 4 = Punycode.encode label := rfl
      rw [hdrop, Punycode.decode?_encode]
      simp [guard, hlabel, hascii, hvalid]

/-! ## Names -/

/-- An ASCII character that a host name may hold is folded to itself. -/
theorem char?_of_not_isForbidden {c : Char} (hascii : c.toNat < 0x80) (h : isForbidden c = false) :
    Folding.char? c = some [c] := by
  have hupper : ¬ c.isUpper := by simp_all [isForbidden]
  have hlower : c.toLower = c := dif_neg fun hrange => hupper (decide_eq_true hrange)
  rw [Folding.char?, if_pos hascii, hlower]

theorem isRightToLeft_of_isAscii (h : isAscii label = true) : Direction.isRightToLeft label = false := by
  rw [Direction.isRightToLeft, List.any_eq_false]
  intro c hc
  have hascii := isAscii_iff.1 h c hc
  simp only [Direction.classOf, if_pos hascii]
  split <;> [skip; split] <;> simp

/-- Labels in ASCII that make a host name together, and what each of them stands for. -/
structure Spells (labels meant : List (List Char)) : Prop where
  ne_nil : labels ≠ []
  dot : ∀ label ∈ labels, '.' ∉ label
  ascii : ∀ label ∈ labels, isAscii label = true
  allowed : ∀ label ∈ labels, ∀ c ∈ label, isForbidden c = false
  meaning : labels.mapM meaning? = some meant
  order : (!meant.any Direction.isRightToLeft || meant.all Direction.isOrderly) = true

theorem Spells.isAscii_joinWith (h : Spells labels meant) : ∀ c ∈ joinWith ['.'] labels, c.toNat < 0x80 :=
  forall_mem_joinWith (by decide) fun label hlabel => isAscii_iff.1 (h.ascii label hlabel)

theorem Spells.isForbidden_joinWith (h : Spells labels meant) : ∀ c ∈ joinWith ['.'] labels, isForbidden c = false :=
  forall_mem_joinWith (by decide) h.allowed

/-- The name that such labels make is its own ASCII form. -/
theorem Spells.toAscii?_joinWith (h : Spells labels meant) :
    toAscii? (joinWith ['.'] labels) = some (joinWith ['.'] labels) := by
  have hname := isAscii_iff.2 h.isAscii_joinWith
  have hfolded : (joinWith ['.'] labels).mapM Folding.char? = some ((joinWith ['.'] labels).map fun c => [c]) := by
    rw [mapM_eq_some, List.forall₂_map_right_iff, List.forall₂_same]
    intro c hc
    exact char?_of_not_isForbidden (h.isAscii_joinWith c hc) (h.isForbidden_joinWith c hc)
  have hflatten : ((joinWith ['.'] labels).map fun c => [c]).flatten = joinWith ['.'] labels := by
    simp [← List.flatMap_def]
  have hlabels : labels.map labelChars = labels := by
    rw [List.map_congr_left fun label hlabel => labelChars_of_isAscii (h.ascii label hlabel), List.map_id']
  have hany : (joinWith ['.'] labels).any isForbidden = false := by simpa using h.isForbidden_joinWith
  have hdot : ∀ label ∈ labels, ∀ c ∈ label, (c == '.') = false := fun label hlabel c hc =>
    beq_eq_false_iff_ne.2 (ne_of_mem_of_not_mem hc (h.dot label hlabel))
  have hsplit : splitAtEach (· == '.') (joinWith ['.'] labels) = labels := by
    apply splitAtEach_joinWith _ h.ne_nil hdot
    simp
  simp only [toAscii?, hfolded, Option.bind_eq_bind, Option.bind_some, hflatten, hname, if_true,
    hsplit, h.meaning, h.order, hlabels, hany]
  rfl

/-- The ASCII form of a name is made of labels that spell it. -/
theorem spells_of_toAscii? (h : toAscii? cs = some ascii) :
    ∃ labels meant, Spells labels meant ∧ ascii = joinWith ['.'] labels := by
  simp only [toAscii?, Option.bind_eq_bind, Option.bind_eq_some_iff, Option.guard_eq_some'] at h
  obtain ⟨folded, -, meant, hmeant, -, horder, -, hallowed, hascii⟩ := h
  obtain rfl := (Option.some.inj hascii).symm
  generalize (if isAscii folded.flatten = true then folded.flatten else Composition.compose folded.flatten) = name
    at hmeant hallowed ⊢
  refine ⟨(splitAtEach (· == '.') name).map labelChars, meant, ?_, rfl⟩
  have hdot : ∀ label ∈ splitAtEach (· == '.') name, '.' ∉ label := by
    intro label hlabel hmem
    simpa using (forall_mem_of_mem_splitAtEach hlabel '.' hmem).2
  constructor
  · simp [splitAtEach_ne_nil]
  · simp only [List.forall_mem_map]
    exact fun label hlabel => dot_not_mem_labelChars (hdot label hlabel)
  · simp [isAscii_labelChars]
  · intro label hlabel c hc
    simp only [Bool.not_eq_true', List.any_eq_false] at hallowed
    simpa using hallowed c (mem_joinWith_of_mem hlabel hc)
  · rw [mapM_eq_some] at hmeant ⊢
    rw [List.forall₂_map_left_iff]
    exact hmeant.imp fun label cs hcs => meaning?_labelChars hcs
  · exact horder

/-- **The ASCII form of a host name is its own.** -/
theorem toAscii?_toAscii? (h : toAscii? cs = some ascii) : toAscii? ascii = some ascii := by
  obtain ⟨labels, meant, hspells, rfl⟩ := spells_of_toAscii? h
  exact hspells.toAscii?_joinWith

end Idna
end FederatedLedger
