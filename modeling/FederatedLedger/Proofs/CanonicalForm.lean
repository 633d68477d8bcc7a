import FederatedLedger.Proofs.ByteOrder
import FederatedLedger.Proofs.Reading
import FederatedLedger.Text.Blank

/-!
# The canonical text is a canonical form

Main statement `Json.canonicalText_canonical`: two values have one canonical text iff they are the same document. The
syntax of the text, as the reader sees it, has the names of every object in ascending order of their bytes
(`nameLists_document`), and nothing blank stands outside the quotes (`noBlank_chars`). What is read from the text is
the document again, so that its canonical text is the same.

Ordering puts the members of two objects that are the same into one list, as a list in order is told by its look-ups
(`sorted_eq_of_same`); so nothing of the order in which members were given is left.
-/

namespace FederatedLedger

namespace Json

/-! ## Ordering -/

/-- **Ordering forgets the order of members**, where no object names a member twice. -/
theorem sorted_eq_of_same {v w : Json} (h : v.Same w) :
    v.hasDistinctNames = true → w.hasDistinctNames = true → v.sorted = w.sorted := by
  induction h with
  | null => exact fun _ _ => rfl
  | bool b => exact fun _ _ => rfl
  | number n => exact fun _ _ => rfl
  | string s => exact fun _ _ => rfl
  | @array vs ws hlength _ ih =>
    intro hv hw
    have hvs : ∀ v ∈ vs, v.hasDistinctNames = true := allItems_iff.1 hv
    have hws : ∀ w ∈ ws, w.hasDistinctNames = true := allItems_iff.1 hw
    have hitems : vs.map sorted = ws.map sorted := by
      refine List.ext_getElem (by simpa using hlength) fun i hi hi' => ?_
      rw [List.length_map] at hi hi'
      rw [List.getElem_map, List.getElem_map]
      exact ih i vs[i] ws[i] (List.getElem?_eq_getElem hi) (List.getElem?_eq_getElem hi')
        (hvs _ (List.getElem_mem hi)) (hws _ (List.getElem_mem hi'))
    rw [sorted, sorted, sortedItems_eq, sortedItems_eq, hitems]
  | @object ms ns hnames _ ih =>
    intro hv hw
    obtain ⟨hms, hall⟩ := Bool.and_eq_true_iff.1 hv
    obtain ⟨hns, hall'⟩ := Bool.and_eq_true_iff.1 hw
    refine congrArg object ((Entries.ascending_ordered _).ext (Entries.ascending_ordered _) fun name => ?_)
    rw [lookup_members_sorted (of_decide_eq_true hms), lookup_members_sorted (of_decide_eq_true hns)]
    have hname := hnames name
    cases hm : ms.lookup name with
    | none => cases hn : ns.lookup name with
      | none => rfl
      | some w => rw [hm, hn] at hname; cases hname
    | some v => cases hn : ns.lookup name with
      | none => rw [hm, hn] at hname; cases hname
      | some w =>
        have hv := allMembers_iff.1 hall _ (Entries.mem_of_lookup hm)
        have hw := allMembers_iff.1 hall' _ (Entries.mem_of_lookup hn)
        exact congrArg some (ih name v w hm hn hv hw)

mutual

/-- After ordering, members are in order. -/
theorem isOrdered_sorted : ∀ v : Json, v.sorted.isOrdered = true
  | .null => rfl
  | .bool _ => rfl
  | .number _ => rfl
  | .string _ => rfl
  | .array items => isOrdered_sortedItems items
  | .object members => by
    have hmembers := allMembers_iff.1 (isOrdered_sortedMembers members)
    refine Bool.and_eq_true_iff.2 ⟨decide_eq_true (Entries.ascending_ordered _), ?_⟩
    exact allMembers_iff.2 fun m hm => hmembers m (Entries.mem_of_mem_ordered hm)

theorem isOrdered_sortedItems : ∀ items : List Json, allItems namesAscend (sortedItems items) = true
  | [] => rfl
  | v :: items => Bool.and_eq_true_iff.2 ⟨isOrdered_sorted v, isOrdered_sortedItems items⟩

theorem isOrdered_sortedMembers : ∀ members : List (String × Json),
    allMembers namesAscend (sortedMembers members) = true
  | [] => rfl
  | (_, v) :: members => Bool.and_eq_true_iff.2 ⟨isOrdered_sorted v, isOrdered_sortedMembers members⟩

end

mutual

/-- A value whose members are in order stays as it is. -/
theorem sorted_eq_self : ∀ {v : Json}, v.isOrdered = true → v.sorted = v
  | .null, _ => rfl
  | .bool _, _ => rfl
  | .number _, _ => rfl
  | .string _, _ => rfl
  | .array items, h => by
    have hitems : sortedItems items = items := sortedItems_eq_self h
    rw [sorted, hitems]
  | .object members, h => by
    obtain ⟨hnames, hall⟩ := Bool.and_eq_true_iff.1 h
    have hascending : (members.map Prod.fst).Pairwise (· < ·) := of_decide_eq_true hnames
    rw [sorted, sortedMembers_eq_self hall, Entries.Ascending.ordered_eq hascending]

theorem sortedItems_eq_self : ∀ {items : List Json}, allItems namesAscend items = true → sortedItems items = items
  | [], _ => rfl
  | v :: items, h => by
    obtain ⟨hv, hitems⟩ := Bool.and_eq_true_iff.1 h
    rw [sortedItems, sorted_eq_self hv, sortedItems_eq_self hitems]

theorem sortedMembers_eq_self : ∀ {members : List (String × Json)}, allMembers namesAscend members = true →
    sortedMembers members = members
  | [], _ => rfl
  | (k, v) :: members, h => by
    obtain ⟨hv, hmembers⟩ := Bool.and_eq_true_iff.1 h
    rw [sortedMembers, sorted_eq_self hv, sortedMembers_eq_self hmembers]

end

@[simp] theorem sorted_sorted (v : Json) : v.sorted.sorted = v.sorted := sorted_eq_self (isOrdered_sorted v)

/-- Names in order are distinct. -/
theorem hasDistinctNames_of_isOrdered {v : Json} : v.isOrdered = true → v.hasDistinctNames = true := by
  refine all_mono fun v h => ?_
  cases v with
  | object members =>
    have hascending : (members.map Prod.fst).Pairwise (· < ·) := of_decide_eq_true h
    exact decide_eq_true (Entries.Ascending.nodup hascending)
  | _ => rfl

/-- Ordering gives the same document. -/
theorem same_sorted {v : Json} (h : v.hasDistinctNames = true) : v.Same v.sorted :=
  same_of_sorted_eq h (hasDistinctNames_of_isOrdered (isOrdered_sorted v)) (sorted_sorted v).symm

/-! ## Depth -/

mutual

/-- Ordering nests no deeper. -/
theorem depth_sorted_le : ∀ v : Json, v.sorted.depth ≤ v.depth
  | .null => Nat.le_refl _
  | .bool _ => Nat.le_refl _
  | .number _ => Nat.le_refl _
  | .string _ => Nat.le_refl _
  | .array items => Nat.succ_le_succ (depth_sortedItems_le items)
  | .object members => by
    refine Nat.succ_le_succ (depthMembers_le_iff.2 fun m hm => ?_)
    exact depthMembers_le_iff.1 (depth_sortedMembers_le members) m (Entries.mem_of_mem_ordered hm)

theorem depth_sortedItems_le : ∀ items : List Json, depthItems (sortedItems items) ≤ depthItems items
  | [] => Nat.le_refl _
  | v :: items => Nat.max_le.2 ⟨Nat.le_trans (depth_sorted_le v) (Nat.le_max_left _ _),
      Nat.le_trans (depth_sortedItems_le items) (Nat.le_max_right _ _)⟩

theorem depth_sortedMembers_le : ∀ members : List (String × Json),
    depthMembers (sortedMembers members) ≤ depthMembers members
  | [] => Nat.le_refl _
  | (_, v) :: members => Nat.max_le.2 ⟨Nat.le_trans (depth_sorted_le v) (Nat.le_max_left _ _),
      Nat.le_trans (depth_sortedMembers_le members) (Nat.le_max_right _ _)⟩

end

end Json

/-! ## Names in the output -/

namespace Document

mutual

/-- The names of the members of each object in the document, in the order of the text. -/
def nameLists : Document → List (List (Option String))
  | .array items => itemNameLists items
  | .object members => members.map Prod.fst :: memberNameLists members
  | _ => []

def itemNameLists : List Document → List (List (Option String))
  | [] => []
  | d :: rest => d.nameLists ++ itemNameLists rest

def memberNameLists : List (Option String × Document) → List (List (Option String))
  | [] => []
  | (_, d) :: rest => d.nameLists ++ memberNameLists rest

end

/-- The names of an object are texts whose bytes strictly ascend. -/
def BytesAscend (names : List (Option String)) : Prop :=
  ∃ ks : List String, names = ks.map some ∧ (ks.map utf8).Pairwise (· < ·)

end Document

namespace Json
open Document

theorem names_memberDocuments (members : List (String × Json)) :
    (memberDocuments members).map Prod.fst = (members.map Prod.fst).map some := by
  induction members with
  | nil => rfl
  | cons m members ih => rw [memberDocuments, List.map_cons, ih]; rfl

mutual

/-- A value in order is written so. -/
theorem nameLists_document : ∀ {v : Json}, v.isOrdered = true → ∀ names ∈ v.document.nameLists, BytesAscend names
  | .null, _, names, hnames => nomatch hnames
  | .bool _, _, names, hnames => nomatch hnames
  | .number _, _, names, hnames => nomatch hnames
  | .string _, _, names, hnames => nomatch hnames
  | .array items, h, names, hnames => by
    have hall : allItems namesAscend items = true := h
    exact nameLists_itemDocuments hall names hnames
  | .object members, h, names, hnames => by
    obtain ⟨hascend, hall⟩ := Bool.and_eq_true_iff.1 h
    have hascend : (members.map Prod.fst).Pairwise (· < ·) := of_decide_eq_true hascend
    rcases List.mem_cons.1 hnames with rfl | hnames
    · exact ⟨_, names_memberDocuments members, List.pairwise_map.2 (hascend.imp utf8_lt_iff.2)⟩
    · exact nameLists_memberDocuments hall names hnames

theorem nameLists_itemDocuments : ∀ {items : List Json}, allItems namesAscend items = true →
    ∀ names ∈ itemNameLists (itemDocuments items), BytesAscend names
  | [], _, names, hnames => nomatch hnames
  | v :: items, h, names, hnames => by
    obtain ⟨hv, hitems⟩ := Bool.and_eq_true_iff.1 h
    rcases List.mem_append.1 hnames with hnames | hnames
    · exact nameLists_document hv names hnames
    · exact nameLists_itemDocuments hitems names hnames

theorem nameLists_memberDocuments : ∀ {members : List (String × Json)}, allMembers namesAscend members = true →
    ∀ names ∈ memberNameLists (memberDocuments members), BytesAscend names
  | [], _, names, hnames => nomatch hnames
  | (_, v) :: members, h, names, hnames => by
    obtain ⟨hv, hmembers⟩ := Bool.and_eq_true_iff.1 h
    rcases List.mem_append.1 hnames with hnames | hnames
    · exact nameLists_document hv names hnames
    · exact nameLists_memberDocuments hmembers names hnames

end

/-! ## Outside the quotes -/

/-- The characters of a JSON text outside its quotes, and whether the text begins inside of them. A backslash takes
the character after it along. -/
def outsideQuotes : Bool → List Char → List Char
  | _, [] => []
  | false, c :: r => if c = '"' then outsideQuotes true r else c :: outsideQuotes false r
  | true, '\\' :: _ :: r => outsideQuotes true r
  | true, c :: r => outsideQuotes (c ≠ '"') r

/-- Nothing blank stands outside the quotes. -/
def NoBlank (cs : List Char) : Prop := ∀ c ∈ outsideQuotes false cs, isBlank c = false

theorem outsideQuotes_inside {c : Char} (h : c ≠ '\\') (r : List Char) :
    outsideQuotes true (c :: r) = outsideQuotes (c ≠ '"') r := by
  rw [outsideQuotes.eq_def]
  split
  · contradiction
  · contradiction
  · rename_i heq; exact absurd (List.cons.inj heq).1 h
  · rename_i heq; rw [(List.cons.inj heq).1, (List.cons.inj heq).2]

theorem outsideQuotes_escapeChar (c : Char) (r : List Char) :
    outsideQuotes true (escapeChar c ++ r) = outsideQuotes true r := by
  unfold escapeChar
  split
  case h_8 hquote hbackslash _ _ _ _ _ =>
    split
    · have hplain : ∀ n < 16, Hex.digit n ≠ '\\' ∧ Hex.digit n ≠ '"' := by decide
      obtain ⟨hhigh, hhigh'⟩ := hplain (c.toNat / 16) (by omega)
      obtain ⟨hlow, hlow'⟩ := hplain (c.toNat % 16) (by omega)
      simp [outsideQuotes, outsideQuotes_inside, hhigh, hhigh', hlow, hlow']
    · simp [outsideQuotes_inside hbackslash, show c ≠ '"' from hquote]
  all_goals simp [outsideQuotes]

theorem outsideQuotes_quoted (s : String) (r : List Char) :
    outsideQuotes false (quoted s ++ r) = outsideQuotes false r := by
  have hinside : ∀ cs : List Char, outsideQuotes true (cs.flatMap escapeChar ++ '"' :: r) = outsideQuotes false r := by
    intro cs
    induction cs with
    | nil => simp [outsideQuotes_inside]
    | cons c cs ih => rw [List.flatMap_cons, List.append_assoc, outsideQuotes_escapeChar, ih]
  rw [quoted, List.cons_append, List.append_assoc, outsideQuotes, if_pos rfl, List.cons_append, List.nil_append,
    hinside]

theorem noBlank_cons {c : Char} (hquote : c ≠ '"') (hblank : isBlank c = false) {r : List Char} (h : NoBlank r) :
    NoBlank (c :: r) := by
  rw [NoBlank, outsideQuotes, if_neg hquote]
  exact List.forall_mem_cons.2 ⟨hblank, h⟩

theorem noBlank_append {cs : List Char} (hcs : ∀ c ∈ cs, c ≠ '"' ∧ isBlank c = false) {r : List Char} (h : NoBlank r) :
    NoBlank (cs ++ r) := by
  induction cs with
  | nil => exact h
  | cons c cs ih =>
    obtain ⟨⟨hquote, hblank⟩, hcs⟩ := List.forall_mem_cons.1 hcs
    exact noBlank_cons hquote hblank (ih hcs)

theorem plain_of_all {cs : List Char} (h : cs.all (fun c => c ≠ '"' && !isBlank c) = true) :
    ∀ c ∈ cs, c ≠ '"' ∧ isBlank c = false := by
  simpa using h

theorem noBlank_quoted (s : String) {r : List Char} (h : NoBlank r) : NoBlank (quoted s ++ r) := by
  rw [NoBlank, outsideQuotes_quoted]
  exact h

/-- A digit is no quote and not blank. -/
theorem plain_of_isDigit {c : Char} (h : c.isDigit = true) : c ≠ '"' ∧ isBlank c = false := by
  have hrange : 48 ≤ c.toNat ∧ c.toNat ≤ 57 := by
    simp only [Char.isDigit, Bool.and_eq_true, decide_eq_true_eq, UInt32.le_iff_toNat_le] at h
    exact h
  refine ⟨fun heq => ?_, ?_⟩
  · subst heq
    exact absurd hrange.1 (by decide)
  · simp only [isBlank, Bool.or_eq_false_iff, Bool.and_eq_false_iff, decide_eq_false_iff_not, beq_eq_false_iff_ne]
    omega

/-- Nothing in a literal is a quote or blank. -/
theorem plain_of_mem_literal {l : Literal} (hl : l.WellFormed) : ∀ c ∈ l.chars, c ≠ '"' ∧ isBlank c = false := by
  have hdigits {ds : List Char} (hds : ∀ c ∈ ds, c.isDigit = true) : ∀ c ∈ ds, c ≠ '"' ∧ isBlank c = false :=
    fun c hc => plain_of_isDigit (hds c hc)
  refine List.forall_mem_append.2 ⟨?_, List.forall_mem_append.2 ⟨hdigits hl.whole, List.forall_mem_append.2 ⟨?_, ?_⟩⟩⟩
  · cases l.negative with
    | false => exact nofun
    | true => exact List.forall_mem_singleton.2 (by decide)
  · cases hf : l.fraction with
    | nil => exact nofun
    | cons d ds => exact List.forall_mem_cons.2 ⟨by decide, hdigits (hf ▸ hl.fraction)⟩
  · cases l.exponent with
    | none => exact nofun
    | some e =>
      refine List.forall_mem_cons.2 ⟨by decide, List.forall_mem_cons.2 ⟨?_, hdigits fun c hc => ?_⟩⟩
      · split <;> decide
      · exact Nat.isDigit_of_mem_toDigits (by decide) (by decide) hc

mutual

/-- A value is written without blanks. -/
theorem noBlank_chars : ∀ {v : Json} {r : List Char}, v.isFinite = true → NoBlank r → NoBlank (v.chars ++ r)
  | .null, r, _, hr => noBlank_append (plain_of_all (by decide)) hr
  | .bool true, r, _, hr => noBlank_append (plain_of_all (by decide)) hr
  | .bool false, r, _, hr => noBlank_append (plain_of_all (by decide)) hr
  | .number n, r, hv, hr => by
    have hn : n.isFinite = true := hv
    rw [chars, ← Number.chars_literal hn]
    exact noBlank_append (plain_of_mem_literal (Number.wellFormed_literal hn)) hr
  | .string s, r, _, hr => noBlank_quoted s hr
  | .array items, r, hv, hr => by
    rw [chars, List.cons_append, List.append_assoc]
    exact noBlank_cons (by decide) (by decide) (noBlank_itemChars hv (noBlank_cons (by decide) (by decide) hr))
  | .object members, r, hv, hr => by
    rw [chars, List.cons_append, List.append_assoc]
    exact noBlank_cons (by decide) (by decide) (noBlank_memberChars hv (noBlank_cons (by decide) (by decide) hr))

theorem noBlank_itemChars : ∀ {items : List Json} {r : List Char}, allItems hasText items = true → NoBlank r →
    NoBlank (itemChars items ++ r)
  | [], r, _, hr => hr
  | [v], r, h, hr => noBlank_chars (Bool.and_eq_true_iff.1 h).1 hr
  | v :: w :: rest, r, h, hr => by
    obtain ⟨hv, hrest⟩ := Bool.and_eq_true_iff.1 h
    rw [itemChars, List.append_assoc, List.cons_append]
    exact noBlank_chars hv (noBlank_cons (by decide) (by decide) (noBlank_itemChars hrest hr))

theorem noBlank_memberChars : ∀ {members : List (String × Json)} {r : List Char}, allMembers hasText members = true →
    NoBlank r → NoBlank (memberChars members ++ r)
  | [], r, _, hr => hr
  | [(k, v)], r, h, hr => by
    rw [memberChars, List.append_assoc, List.cons_append]
    exact noBlank_quoted k (noBlank_cons (by decide) (by decide) (noBlank_chars (Bool.and_eq_true_iff.1 h).1 hr))
  | (k, v) :: w :: rest, r, h, hr => by
    obtain ⟨hv, hrest⟩ := Bool.and_eq_true_iff.1 h
    rw [memberChars, List.append_assoc, List.cons_append, List.append_assoc, List.cons_append]
    have hmore := noBlank_cons (c := ',') (by decide) (by decide) (noBlank_memberChars hrest hr)
    exact noBlank_quoted k (noBlank_cons (by decide) (by decide) (noBlank_chars hv hmore))

end

/-! ## The canonical form -/

/-- **The canonical text is a canonical form.** Two values have one canonical text iff they are the same document. In
the text the names of every object strictly ascend by their bytes, and nothing blank stands outside the quotes. The
syntax of the value, its numbers as literals, is read back from the text. If its integers fit into 64 bits, its doubles
are read as they were written, and it nests no deeper than a text may, then what is read is the same document, with the
same canonical text. -/
theorem canonicalText_canonical {v w : Json} (hv : v.Proper) (hw : w.Proper) :
    (v.canonicalText = w.canonicalText ↔ v.Same w) ∧
    (Document.parse? v.canonicalText = some v.sorted.document ∧
      ∀ names ∈ v.sorted.document.nameLists, BytesAscend names) ∧
    (∀ c ∈ outsideQuotes false v.canonicalText.toList, isBlank c = false) ∧
    (v.isStable = true → v.depth ≤ Document.depthLimit →
      ∃ u, Json.parse? v.canonicalText = some u ∧ v.Same u ∧ u.canonicalText = v.canonicalText) := by
  have hfinite := isFinite_sorted hv.finite
  have hordered := isOrdered_sorted v
  refine ⟨⟨same_of_canonicalText_eq hv.finite hw.finite hv.names hw.names, fun h => ?_⟩, ?_, ?_, fun hstable hdepth => ?_⟩
  · rw [canonicalText, canonicalText, sorted_eq_of_same h hv.names hw.names]
  · exact ⟨Document.parse?_text hfinite, nameLists_document hordered⟩
  · have hempty : NoBlank [] := nofun
    have htext := noBlank_chars hfinite hempty
    rw [List.append_nil] at htext
    rw [canonicalText, text, String.toList_ofList]
    exact htext
  · have hstable : v.sorted.isStable = true := all_sorted (fun _ => rfl) (fun _ => rfl) hstable
    have hdepth := Nat.le_trans (depth_sorted_le v) hdepth
    refine ⟨v.sorted, parse?_text hfinite hordered hstable hdepth, same_sorted hv.names, ?_⟩
    rw [canonicalText, sorted_sorted]; rfl

/-- Members in two orders, at two levels, with names beyond ASCII and a text full of escapes. -/
theorem canonicalText_canonical_nested : ∃ v w : Json, v ≠ w ∧ v.Proper ∧ w.Proper ∧ v.isStable = true ∧
    v.depth ≤ Document.depthLimit ∧ v.canonicalText = w.canonicalText ∧ v.Same w ∧
    ∃ u, Json.parse? v.canonicalText = some u ∧ v.Same u ∧ u.canonicalText = v.canonicalText := by
  let half : Json := .number (.float ⟨0x3FE0000000000000⟩)
  let low : Json := .number (.int (-9223372036854775808))
  let inner : List (String × Json) := [("z", .string "a \"b\"\\\n\x01é"), ("", .null)]
  let v : Json := .object [("é", .array [half, low, .object inner]), ("e", .bool true)]
  let w : Json := .object [("e", .bool true), ("é", .array [half, low, .object inner.reverse])]
  have hv : v.Proper := ⟨by decide +kernel, by decide +kernel⟩
  have hw : w.Proper := ⟨by decide +kernel, by decide +kernel⟩
  have hstable : v.isStable = true := by decide +kernel
  have hdepth : v.depth ≤ Document.depthLimit := by decide
  have htext : v.canonicalText = w.canonicalText := by decide +kernel
  obtain ⟨hiff, -, -, hread⟩ := canonicalText_canonical hv hw
  refine ⟨v, w, fun h => ?_, hv, hw, hstable, hdepth, htext, hiff.1 htext, hread hstable hdepth⟩
  exact absurd (congrArg Prod.fst (List.cons.inj (object.inj h)).1) (by decide)

end Json
end FederatedLedger
