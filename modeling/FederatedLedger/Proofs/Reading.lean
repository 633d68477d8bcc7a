import FederatedLedger.Proofs.Proper

/-!
# JSON that was written reads back

The parser reads the text of a value off the front of a longer text, with the length of the value's text as enough
fuel, and stops where it ends (`Document.parseValue_chars`). What it reads is the value as a document
(`Json.document`), in which every number is what its own literal stands for. A value whose numbers are read as they
were written (`Json.isStable`) and whose objects name their members in order is the value of its document again
(`Json.value?_document`), as far as its nesting is allowed.
-/

namespace FederatedLedger

/-! ## Numbers -/

/-- Whether the number is read as it was written. An integer has to fit into 64 bits. A double is rounded twice on
the way from its digits, and can come out as a neighbour. -/
def Number.isStable : Number → Bool
  | .int n => Int64.minValue.toInt ≤ n && n < UInt64.size
  | .float x => (Number.float x).literal.value? = some (.float x)

namespace Literal

theorem le_ofDigitChars (cs : List Char) (n : Nat) : n ≤ Nat.ofDigitChars 10 cs n := by
  induction cs generalizing n with
  | nil => exact Nat.le_refl n
  | cons c cs ih =>
    rw [Nat.ofDigitChars_cons]
    exact Nat.le_trans (by omega) (ih _)

/-- All digits of a number of 64 bits are taken. -/
theorem takeDigits_of_lt (cs : List Char) {n : Nat} (h : Nat.ofDigitChars 10 cs n < UInt64.size) :
    takeDigits n cs = (Nat.ofDigitChars 10 cs n, []) := by
  induction cs generalizing n with
  | nil => rfl
  | cons c cs ih =>
    rw [Nat.ofDigitChars_cons] at h ⊢
    rw [takeDigits, if_pos]
    · exact ih h
    · exact Nat.lt_of_le_of_lt (le_ofDigitChars _ _) h

end Literal

/-- The integers that 64 bits hold, with a sign or without. -/
theorem Number.isStable_int_iff {n : Int} :
    (int n).isStable = true ↔ -9223372036854775808 ≤ n ∧ n < 18446744073709551616 := by
  have hmin : Int64.minValue.toInt = -9223372036854775808 := by decide
  have hsize : (UInt64.size : Int) = 18446744073709551616 := rfl
  rw [isStable, hmin, hsize, Bool.and_eq_true_iff, decide_eq_true_iff, decide_eq_true_iff]

theorem Number.value?_literal {n : Number} (h : n.isStable = true) : n.literal.value? = some n := by
  cases n with
  | float x => exact of_decide_eq_true h
  | int n =>
    obtain ⟨hlow, hhigh⟩ := isStable_int_iff.1 h
    have hsize : UInt64.size = 18446744073709551616 := rfl
    have hdigits : Nat.ofDigitChars 10 (Nat.toDigits 10 n.natAbs) 0 = n.natAbs := Nat.ofDigitChars_ten_toDigits
    have htake := Literal.takeDigits_of_lt (Nat.toDigits 10 n.natAbs) (n := 0) (by omega)
    have hmin : Int64.minValue.toInt = -9223372036854775808 := by decide
    rw [hdigits] at htake
    simp only [literal, Literal.value?, htake, hmin]
    by_cases hn : n < 0
    · have : 0 < n.natAbs ∧ -9223372036854775808 ≤ -(n.natAbs : Int) := by omega
      simp only [hn, decide_true, Bool.not_true, Bool.false_eq_true, if_false, if_pos this]
      rw [show -(n.natAbs : Int) = n by omega]
    · simp only [hn, decide_false, Bool.not_false, if_true]
      rw [show (n.natAbs : Int) = n by omega]

namespace Json

mutual

/-- The value as it is read from its own text. -/
def document : Json → Document
  | .null => .null
  | .bool b => .bool b
  | .number n => .number n.literal.value?
  | .string s => .string (some s)
  | .array items => .array (itemDocuments items)
  | .object members => .object (memberDocuments members)

def itemDocuments : List Json → List Document
  | [] => []
  | v :: rest => v.document :: itemDocuments rest

def memberDocuments : List (String × Json) → List (Option String × Document)
  | [] => []
  | (k, v) :: rest => (some k, v.document) :: memberDocuments rest

end

end Json

/-! ## Parsing -/

namespace Document
open Json

theorem skipSpace_cons {c : Char} (h : isSpace c = false) (cs : List Char) : skipSpace (c :: cs) = c :: cs := by
  rw [skipSpace, List.dropWhile_cons_of_neg (by simp [h])]

/-- No value begins with space. -/
theorem kindOf_ne_kind {c : Char} (h : isSpace c = true) (v : Json) : kindOf c ≠ v.kind := by
  have hc : c = ' ' ∨ c = '\n' ∨ c = '\t' ∨ c = '\r' := by simpa [isSpace, or_assoc] using h
  intro hkind
  rcases hc with rfl | rfl | rfl | rfl <;> cases v <;> first | cases hkind | (rename_i b; cases b <;> cases hkind)

/-- The text of a value begins with no space, and not like the end of an array or of an object. -/
theorem chars_head {v : Json} (h : v.isFinite = true) (r : List Char) :
    ∃ c cs, v.chars ++ r = c :: cs ∧ isSpace c = false ∧ c ≠ ']' ∧ c ≠ '\x7d' := by
  obtain ⟨c, cs, hchars, hkind⟩ := kindOf_head h
  have happend : v.chars ++ r = c :: (cs ++ r) := by rw [hchars, List.cons_append]
  refine ⟨c, cs ++ r, happend, ?_, ?_, ?_⟩
  · exact Bool.eq_false_iff.2 fun hspace => kindOf_ne_kind hspace v hkind
  · rintro rfl
    exact chars_append_ne_closing h (.inl rfl) r _ happend
  · rintro rfl
    exact chars_append_ne_closing h (.inr rfl) r _ happend

/-- What begins like a number is read as one. -/
theorem parseValue_number {fuel : Nat} {c : Char} {cs r : List Char} {l : Literal} (hc : kindOf c = '0')
    (h : number? (c :: cs) = some (l, r)) : parseValue (fuel + 1) (c :: cs) = some (.number l.value?, r) := by
  have hspace : isSpace c = false := Bool.eq_false_iff.2 fun hspace => kindOf_ne_kind hspace (.number (.int 0)) hc
  rw [parseValue, skipSpace_cons hspace]
  split
  case h_7 => rw [h]; rfl
  all_goals
    rename_i heq
    rw [(List.cons.inj heq).1] at hc
    cases hc

theorem parseValue_array {fuel : Nat} {c : Char} {cs r : List Char} {items : List Document} (hspace : isSpace c = false)
    (hc : c ≠ ']') (h : parseItems fuel (c :: cs) = some (items, r)) :
    parseValue (fuel + 1) ('[' :: c :: cs) = some (.array items, r) := by
  have hopen : skipSpace ('[' :: c :: cs) = '[' :: c :: cs := rfl
  simp only [parseValue, hopen, skipSpace_cons hspace]
  split
  · rename_i heq
    exact absurd (List.cons.inj heq).1 hc
  · rw [h]; rfl

theorem parseValue_object {fuel : Nat} {cs r : List Char} {members : List (Option String × Document)}
    (h : parseMembers fuel ('"' :: cs) = some (members, r)) :
    parseValue (fuel + 1) ('\x7b' :: '"' :: cs) = some (.object members, r) := by
  have hopen : skipSpace ('\x7b' :: '"' :: cs) = '\x7b' :: '"' :: cs := rfl
  have hquote : skipSpace ('"' :: cs) = '"' :: cs := rfl
  simp only [parseValue, hopen, hquote]
  split
  · rename_i heq
    exact absurd (List.cons.inj heq).1 (by decide)
  · rw [h]; rfl

/-- The name and the value of the last member. -/
theorem parseMembers_last {fuel : Nat} (k : String) {cs r : List Char} {d : Document}
    (h : parseValue fuel cs = some (d, '\x7d' :: r)) :
    parseMembers (fuel + 1) (quoted k ++ ':' :: cs) = some ([(some k, d)], r) := by
  have hquote (cs : List Char) : skipSpace ('"' :: cs) = '"' :: cs := rfl
  have hcolon : skipSpace (':' :: cs) = ':' :: cs := rfl
  have hclose : skipSpace ('\x7d' :: r) = '\x7d' :: r := rfl
  rw [quoted, List.cons_append, List.append_assoc, parseMembers]
  simp only [hquote, List.cons_append, List.nil_append, text?_escaped, Option.bind_eq_bind, Option.bind_some, hcolon, h,
    hclose, Option.pure_def]

/-- The name and the value of a member that others follow. -/
theorem parseMembers_more {fuel : Nat} (k : String) {cs r rest : List Char} {d : Document}
    {members : List (Option String × Document)} (h : parseValue fuel cs = some (d, ',' :: r))
    (hmembers : parseMembers fuel r = some (members, rest)) :
    parseMembers (fuel + 1) (quoted k ++ ':' :: cs) = some ((some k, d) :: members, rest) := by
  have hquote (cs : List Char) : skipSpace ('"' :: cs) = '"' :: cs := rfl
  have hcolon : skipSpace (':' :: cs) = ':' :: cs := rfl
  have hcomma : skipSpace (',' :: r) = ',' :: r := rfl
  rw [quoted, List.cons_append, List.append_assoc, parseMembers]
  simp only [hquote, List.cons_append, List.nil_append, text?_escaped, Option.bind_eq_bind, Option.bind_some, hcolon, h,
    hcomma, hmembers, Option.pure_def]

mutual

/-- **A written value is read, and the reader stops where it ends.** -/
theorem parseValue_chars : ∀ (v : Json) (fuel : Nat) (r : List Char), v.isFinite = true → v.chars.length ≤ fuel →
    EndsNumber r → parseValue fuel (v.chars ++ r) = some (v.document, r)
  | .null, fuel + 1, r, _, _, _ => rfl
  | .bool true, fuel + 1, r, _, _, _ => rfl
  | .bool false, fuel + 1, r, _, _, _ => rfl
  | .string s, fuel + 1, r, _, _, _ => by
    have hopen (cs : List Char) : skipSpace ('"' :: cs) = '"' :: cs := rfl
    rw [chars, quoted, List.cons_append, List.append_assoc]
    simp only [parseValue, hopen, List.cons_append, List.nil_append, text?_escaped, Option.map_some, document]
  | .number n, fuel + 1, r, hv, _, hr => by
    have hn : n.isFinite = true := hv
    obtain ⟨c, cs, hchars, hkind⟩ := kindOf_head hv
    have hread := Literal.number?_chars (Number.wellFormed_literal hn) hr
    rw [Number.chars_literal hn] at hread
    rw [chars] at hchars ⊢
    rw [hchars, List.cons_append] at hread ⊢
    exact parseValue_number hkind hread
  | .array [], fuel + 1, r, _, _, _ => rfl
  | .array (v :: rest), fuel + 1, r, hv, hfuel, _ => by
    have hitems := parseItems_chars v rest fuel r hv (by simpa [chars, Nat.succ_le_iff] using hfuel)
    rw [chars, List.cons_append, List.append_assoc, List.cons_append, List.nil_append]
    rw [itemChars_cons] at hitems ⊢
    obtain ⟨c, cs, hhead, hspace, hclose, -⟩ := chars_head (Bool.and_eq_true_iff.1 hv).1 (itemTail rest r)
    rw [hhead] at hitems ⊢
    exact parseValue_array hspace hclose hitems
  | .object [], fuel + 1, r, _, _, _ => rfl
  | .object ((k, v) :: rest), fuel + 1, r, hv, hfuel, _ => by
    have hmembers := parseMembers_chars k v rest fuel r hv (by simpa [chars, Nat.succ_le_iff] using hfuel)
    rw [chars, List.cons_append, List.append_assoc, List.cons_append, List.nil_append]
    rw [memberChars_cons] at hmembers ⊢
    exact parseValue_object hmembers
  | v, 0, r, hv, hfuel, _ => by
    obtain ⟨c, cs, hchars, -⟩ := kindOf_head hv
    rw [hchars] at hfuel
    exact absurd hfuel (Nat.not_succ_le_zero _)

theorem parseItems_chars : ∀ (v : Json) (rest : List Json) (fuel : Nat) (r : List Char),
    allItems hasText (v :: rest) = true → (itemChars (v :: rest)).length < fuel →
    parseItems fuel (itemChars (v :: rest) ++ ']' :: r) = some (itemDocuments (v :: rest), r)
  | v, rest, 0, r, _, hfuel => absurd hfuel (Nat.not_lt_zero _)
  | v, [], fuel + 1, r, hall, hfuel => by
    have hv := parseValue_chars v fuel _ (Bool.and_eq_true_iff.1 hall).1 (by simpa [itemChars, Nat.lt_succ_iff] using hfuel)
      (endsNumber_itemTail [] r)
    rw [itemChars_cons, parseItems, hv]
    rfl
  | v, w :: rest, fuel + 1, r, hall, hfuel => by
    obtain ⟨hfinite, hrest⟩ := Bool.and_eq_true_iff.1 hall
    simp only [itemChars, List.length_append, List.length_cons] at hfuel
    have hv := parseValue_chars v fuel _ hfinite (by omega) (endsNumber_itemTail (w :: rest) r)
    have hitems := parseItems_chars w rest fuel r hrest (by omega)
    have hcomma (cs : List Char) : skipSpace (',' :: cs) = ',' :: cs := rfl
    rw [itemChars_cons, parseItems, hv]
    simp only [itemTail, Option.bind_eq_bind, Option.bind_some, hcomma, hitems, Option.pure_def]
    rfl

theorem parseMembers_chars : ∀ (k : String) (v : Json) (rest : List (String × Json)) (fuel : Nat) (r : List Char),
    allMembers hasText ((k, v) :: rest) = true → (memberChars ((k, v) :: rest)).length < fuel →
    parseMembers fuel (memberChars ((k, v) :: rest) ++ '\x7d' :: r) = some (memberDocuments ((k, v) :: rest), r)
  | k, v, rest, 0, r, _, hfuel => absurd hfuel (Nat.not_lt_zero _)
  | k, v, [], fuel + 1, r, hall, hfuel => by
    simp only [memberChars, List.length_append, List.length_cons] at hfuel
    have hv := parseValue_chars v fuel _ (Bool.and_eq_true_iff.1 hall).1 (by omega) (endsNumber_memberTail [] r)
    rw [memberChars_cons]
    exact parseMembers_last k hv
  | k, v, (l, w) :: rest, fuel + 1, r, hall, hfuel => by
    obtain ⟨hfinite, hrest⟩ := Bool.and_eq_true_iff.1 hall
    simp only [memberChars, List.length_append, List.length_cons] at hfuel
    have hv := parseValue_chars v fuel _ hfinite (by omega) (endsNumber_memberTail ((l, w) :: rest) r)
    have hmembers := parseMembers_chars l w rest fuel r hrest (by omega)
    rw [memberChars_cons]
    exact parseMembers_more k hv hmembers

end

/-- The syntax of a written value is read back. -/
theorem parse?_text {v : Json} (h : v.isFinite = true) : parse? v.text = some v.document := by
  have hend : EndsNumber [] := nofun
  have hread := parseValue_chars v (2 * v.chars.length + 2) [] h (by omega) hend
  rw [List.append_nil] at hread
  simp only [parse?, text, String.toList_ofList, hread, Option.bind_eq_bind, Option.bind_some]
  rfl

end Document

/-! ## Values -/

namespace Json

/-- Whether the value itself names its members in order. -/
def namesAscend : Json → Bool
  | .object members => (members.map Prod.fst).Pairwise (· < ·)
  | _ => true

/-- Whether every object in the value names its members in order. -/
def isOrdered : Json → Bool := all namesAscend

/-- Whether the value itself is no number that is read as another one. -/
def isReread : Json → Bool
  | .number n => n.isStable
  | _ => true

/-- Whether all numbers in the value are read as they were written. -/
def isStable : Json → Bool := all isReread

theorem depthItems_le_iff {items : List Json} {n : Nat} : depthItems items ≤ n ↔ ∀ v ∈ items, v.depth ≤ n := by
  induction items with
  | nil => simp [depthItems]
  | cons v items ih => simp [depthItems, ih]

theorem depthMembers_le_iff {members : List (String × Json)} {n : Nat} :
    depthMembers members ≤ n ↔ ∀ m ∈ members, m.2.depth ≤ n := by
  induction members with
  | nil => simp [depthMembers]
  | cons m members ih => simp [depthMembers, ih]

mutual

/-- A value whose members are in order, and whose numbers are read as they were written, is the value of what is
read. -/
theorem value?_document : ∀ {v : Json} {room : Nat}, v.isOrdered = true → v.isStable = true → v.depth ≤ room →
    v.document.value? room = some v
  | .null, _, _, _, _ => rfl
  | .bool _, _, _, _, _ => rfl
  | .string _, _, _, _, _ => rfl
  | .number n, _, _, hstable, _ => by
    have hn : n.isStable = true := hstable
    rw [document, Number.value?_literal hn]; rfl
  | .array items, room, hordered, hstable, hdepth => by
    have hroom : depthItems items + 1 ≤ room := hdepth
    have hitems : Document.itemValues? (room - 1) (itemDocuments items) = some items :=
      itemValues?_documents hordered hstable (by omega)
    rw [document, Document.value?, if_neg (by omega), hitems]; rfl
  | .object members, room, hordered, hstable, hdepth => by
    have hroom : depthMembers members + 1 ≤ room := hdepth
    obtain ⟨hnames, hordered⟩ := Bool.and_eq_true_iff.1 hordered
    have hmembers : Document.memberValues? (room - 1) (memberDocuments members) = some members :=
      memberValues?_documents hordered hstable (by omega)
    have hascending : (members.map Prod.fst).Pairwise (· < ·) := of_decide_eq_true hnames
    rw [document, Document.value?, if_neg (by omega), hmembers, Option.map_some, Entries.Ascending.ordered_eq hascending]

theorem itemValues?_documents : ∀ {items : List Json} {room : Nat}, allItems namesAscend items = true →
    allItems isReread items = true → depthItems items ≤ room →
    Document.itemValues? room (itemDocuments items) = some items
  | [], _, _, _, _ => rfl
  | v :: items, room, hordered, hstable, hdepth => by
    obtain ⟨hordered, horderedRest⟩ := Bool.and_eq_true_iff.1 hordered
    obtain ⟨hstable, hstableRest⟩ := Bool.and_eq_true_iff.1 hstable
    obtain ⟨hv, hitems⟩ := Nat.max_le.1 hdepth
    rw [itemDocuments, Document.itemValues?, value?_document hordered hstable hv,
      itemValues?_documents horderedRest hstableRest hitems]
    rfl

theorem memberValues?_documents : ∀ {members : List (String × Json)} {room : Nat},
    allMembers namesAscend members = true → allMembers isReread members = true → depthMembers members ≤ room →
    Document.memberValues? room (memberDocuments members) = some members
  | [], _, _, _, _ => rfl
  | (k, v) :: members, room, hordered, hstable, hdepth => by
    obtain ⟨hordered, horderedRest⟩ := Bool.and_eq_true_iff.1 hordered
    obtain ⟨hstable, hstableRest⟩ := Bool.and_eq_true_iff.1 hstable
    obtain ⟨hv, hmembers⟩ := Nat.max_le.1 hdepth
    rw [memberDocuments, Document.memberValues?, value?_document hordered hstable hv,
      memberValues?_documents horderedRest hstableRest hmembers]
    rfl

end

/-- **A written value is read back**, if its members are in order, its numbers are read as they were written, and it
nests no deeper than a JSON text may. -/
theorem parse?_text {v : Json} (hfinite : v.isFinite = true) (hordered : v.isOrdered = true)
    (hstable : v.isStable = true) (hdepth : v.depth ≤ Document.depthLimit) : parse? v.text = some v := by
  rw [parse?, Document.parse?_text hfinite]
  exact value?_document hordered hstable hdepth

end Json
end FederatedLedger
