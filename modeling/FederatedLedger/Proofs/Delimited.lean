import FederatedLedger.Proofs.Numeral

/-!
# JSON text is self-delimiting

What stands for a value in a JSON text tells the value and where its text ends (`chars_append_inj`); only a number
needs to be followed by something that does not continue it. The first character tells the kind of a value
(`kindOf_head`), so two values with one text are of one kind, and the induction is on the values.
-/

namespace FederatedLedger

namespace Document

/-! ## Texts -/

/-- A written character reads back as its code point. -/
theorem units?_escapeChar (c : Char) (r : List Char) :
    units? (Json.escapeChar c ++ r) = (units? r).map fun (us, rest) => (c.toNat :: us, rest) := by
  have hmap (n : Nat) : ((units? r).bind fun (us, rest) => some (n :: us, rest)) =
      (units? r).map fun (us, rest) => (n :: us, rest) := by
    cases units? r <;> rfl
  unfold Json.escapeChar
  split
  case h_8 _ hquote hbackslash _ _ _ _ _ =>
    by_cases hcontrol : c.toNat < 0x20
    · have hhigh := Hex.digitValue?_digit (show c.toNat / 16 < 16 by omega)
      have hlow := Hex.digitValue?_digit (Nat.mod_lt c.toNat (show 0 < 16 by decide))
      have hzero : Hex.digitValue? '0' = some 0 := by decide
      simp only [hcontrol, if_true, List.cons_append, List.nil_append, units?, fourDigits?, hzero, hhigh, hlow,
        Option.bind_eq_bind, Option.bind_some, Option.pure_def]
      rw [show ((0 * 16 + 0) * 16 + c.toNat / 16) * 16 + c.toNat % 16 = c.toNat by omega]
      exact hmap _
    · simp only [hcontrol, if_false, List.cons_append, List.nil_append]
      rw [units?.eq_def]
      split
      · rename_i heq; cases heq
      · rename_i heq; exact absurd (List.cons.inj heq).1 hquote
      · rename_i heq; exact absurd (List.cons.inj heq).1 hbackslash
      · rename_i heq; exact absurd (List.cons.inj heq).1 hbackslash
      · rename_i heq
        obtain ⟨rfl, rfl⟩ := List.cons.inj heq
        simp only [Nat.not_lt.1 hcontrol, guard_true, Option.bind_eq_bind, Option.pure_def, Option.bind_some]
        exact hmap _
  all_goals exact hmap _

/-- The code points of a text are no surrogates. -/
theorem joinUnits?_toNat : ∀ cs : List Char, joinUnits? (cs.map Char.toNat) = some cs
  | [] => rfl
  | c :: cs => by
    have hvalid : c.toNat < 0xD800 ∨ 0xDFFF < c.toNat ∧ c.toNat < 0x110000 := c.valid
    have hhigh : isHighSurrogate c.toNat = false := by
      simp only [isHighSurrogate, Bool.and_eq_false_iff, decide_eq_false_iff_not]; omega
    have hlow : isLowSurrogate c.toNat = false := by
      simp only [isLowSurrogate, Bool.and_eq_false_iff, decide_eq_false_iff_not]; omega
    rw [List.map_cons, joinUnits?.eq_def]
    simp only [hhigh, hlow, Bool.false_eq_true, if_false, joinUnits?_toNat cs, Option.map_some, Char.ofNat_toNat]

/-- A text in quotes reads back, up to its closing quote. -/
theorem text?_escaped (s : String) (r : List Char) :
    text? (s.toList.flatMap Json.escapeChar ++ '"' :: r) = some (some s, r) := by
  have hunits : ∀ cs : List Char, units? (cs.flatMap Json.escapeChar ++ '"' :: r) = some (cs.map Char.toNat, r) := by
    intro cs
    induction cs with
    | nil => rfl
    | cons c cs ih => rw [List.flatMap_cons, List.append_assoc, units?_escapeChar, ih]; rfl
  rw [text?, hunits, Option.map_some]
  simp only [joinUnits?_toNat, Option.map_some, String.ofList_toList]

end Document

namespace Json

theorem quoted_append_inj {s t : String} {r q : List Char} (h : quoted s ++ r = quoted t ++ q) : s = t ∧ r = q := by
  simp only [quoted, List.cons_append, List.append_assoc, List.nil_append, List.cons.injEq, true_and] at h
  have hread := Document.text?_escaped s r
  rw [h, Document.text?_escaped] at hread
  obtain ⟨hs, hr⟩ := Prod.mk.inj (Option.some.inj hread)
  exact ⟨(Option.some.inj hs).symm, hr.symm⟩

/-! ## Values -/

mutual

/-- Whether every value in the tree, itself included, passes a test. -/
def all (p : Json → Bool) : Json → Bool
  | .array items => p (.array items) && allItems p items
  | .object members => p (.object members) && allMembers p members
  | v => p v

def allItems (p : Json → Bool) : List Json → Bool
  | [] => true
  | v :: rest => v.all p && allItems p rest

def allMembers (p : Json → Bool) : List (String × Json) → Bool
  | [] => true
  | (_, v) :: rest => v.all p && allMembers p rest

end

/-- Whether the value itself is no infinity and no NaN. -/
def hasText : Json → Bool
  | .number n => n.isFinite
  | _ => true

/-- Whether all doubles in the value are finite. -/
def isFinite : Json → Bool := all hasText

/-- The kind of a value, as a character that its text may begin with. -/
def kind : Json → Char
  | .null => 'n'
  | .bool true => 't'
  | .bool false => 'f'
  | .number _ => '0'
  | .string _ => '"'
  | .array _ => '['
  | .object _ => '\x7b'

/-- The kind of value that a character begins. -/
def kindOf (c : Char) : Char := if c = '-' ∨ c.isDigit then '0' else c

theorem kindOf_head {v : Json} (h : v.isFinite = true) : ∃ c cs, v.chars = c :: cs ∧ kindOf c = v.kind := by
  cases v with
  | null => exact ⟨_, _, rfl, rfl⟩
  | bool b => cases b <;> exact ⟨_, _, rfl, rfl⟩
  | string s => exact ⟨_, _, rfl, rfl⟩
  | array items => exact ⟨_, _, rfl, rfl⟩
  | object members => exact ⟨_, _, rfl, rfl⟩
  | number n =>
    have hn : n.isFinite = true := h
    have hl := Number.wellFormed_literal hn
    rw [chars, ← Number.chars_literal hn, Literal.chars]
    cases n.literal.negative with
    | true => exact ⟨'-', _, rfl, rfl⟩
    | false =>
      cases hw : n.literal.whole with
      | nil => exact absurd hw hl.whole_ne
      | cons c cs =>
        have hc : c.isDigit = true := hl.whole c (by rw [hw]; exact List.mem_cons_self)
        exact ⟨c, _, rfl, by rw [kindOf, if_pos (Or.inr hc), kind]⟩

/-- Values whose texts are parts of one text are of one kind. -/
theorem kind_eq_of_append {v w : Json} (hv : v.isFinite = true) (hw : w.isFinite = true) {r s : List Char}
    (h : v.chars ++ r = w.chars ++ s) : v.kind = w.kind := by
  obtain ⟨c, cs, hc, hvc⟩ := kindOf_head hv
  obtain ⟨d, ds, hd, hwd⟩ := kindOf_head hw
  rw [hc, hd, List.cons_append, List.cons_append] at h
  rw [← hvc, ← hwd, (List.cons.inj h).1]

/-- No value begins like the end of an array or of an object. -/
theorem chars_append_ne_closing {v : Json} (hv : v.isFinite = true) {c : Char} (hc : c = ']' ∨ c = '\x7d')
    (r s : List Char) : v.chars ++ r ≠ c :: s := by
  obtain ⟨d, ds, hd, hkind⟩ := kindOf_head hv
  intro h
  rw [hd, List.cons_append] at h
  rw [(List.cons.inj h).1] at hkind
  rcases hc with rfl | rfl <;> cases v <;> first | cases hkind | (rename_i b; cases b <;> cases hkind)

/-- What follows the first item of an array. -/
def itemTail (rest : List Json) (r : List Char) : List Char :=
  match rest with
  | [] => ']' :: r
  | v :: rest => ',' :: (itemChars (v :: rest) ++ ']' :: r)

/-- What follows the first member of an object. -/
def memberTail (rest : List (String × Json)) (r : List Char) : List Char :=
  match rest with
  | [] => '\x7d' :: r
  | m :: rest => ',' :: (memberChars (m :: rest) ++ '\x7d' :: r)

theorem itemChars_cons (v : Json) (rest : List Json) (r : List Char) :
    itemChars (v :: rest) ++ ']' :: r = v.chars ++ itemTail rest r := by
  cases rest with
  | nil => rfl
  | cons w rest => simp [itemChars, itemTail]

theorem memberChars_cons (k : String) (v : Json) (rest : List (String × Json)) (r : List Char) :
    memberChars ((k, v) :: rest) ++ '\x7d' :: r = quoted k ++ (':' :: (v.chars ++ memberTail rest r)) := by
  cases rest with
  | nil => simp [memberChars, memberTail]
  | cons w rest => simp [memberChars, memberTail]

theorem endsNumber_itemTail (rest : List Json) (r : List Char) : EndsNumber (itemTail rest r) := by
  cases rest <;> (intro c hc; cases hc; decide)

theorem endsNumber_memberTail (rest : List (String × Json)) (r : List Char) : EndsNumber (memberTail rest r) := by
  cases rest <;> (intro c hc; cases hc; decide)

mutual

/-- **The text of a value ends by itself**: it tells the value, and where it ends. -/
theorem chars_append_inj : ∀ (v w : Json) {r s : List Char}, v.isFinite = true → w.isFinite = true →
    EndsNumber r → EndsNumber s → v.chars ++ r = w.chars ++ s → v = w ∧ r = s
  | .null, w, r, s, hv, hw, hr, hs, h => by
    have hkind := kind_eq_of_append hv hw h
    cases w with
    | null => exact ⟨rfl, List.append_cancel_left h⟩
    | bool b => cases b <;> cases hkind
    | _ => cases hkind
  | .bool a, w, r, s, hv, hw, hr, hs, h => by
    have hkind := kind_eq_of_append hv hw h
    cases w with
    | bool b => cases a <;> cases b <;> first | exact ⟨rfl, List.append_cancel_left h⟩ | cases hkind
    | _ => cases a <;> cases hkind
  | .number n, w, r, s, hv, hw, hr, hs, h => by
    have hkind := kind_eq_of_append hv hw h
    cases w with
    | number m =>
      obtain ⟨rfl, hrest⟩ := Number.chars_append_inj hv hw hr hs h
      exact ⟨rfl, hrest⟩
    | bool b => cases b <;> cases hkind
    | _ => cases hkind
  | .string t, w, r, s, hv, hw, hr, hs, h => by
    have hkind := kind_eq_of_append hv hw h
    cases w with
    | string u =>
      obtain ⟨rfl, hrest⟩ := quoted_append_inj h
      exact ⟨rfl, hrest⟩
    | bool b => cases b <;> cases hkind
    | _ => cases hkind
  | .array vs, w, r, s, hv, hw, hr, hs, h => by
    have hkind := kind_eq_of_append hv hw h
    cases w with
    | array ws =>
      simp only [chars, List.cons_append, List.append_assoc, List.nil_append, List.cons.injEq, true_and] at h
      obtain ⟨rfl, hrest⟩ := itemChars_append_inj vs ws hv hw h
      exact ⟨rfl, hrest⟩
    | bool b => cases b <;> cases hkind
    | _ => cases hkind
  | .object ms, w, r, s, hv, hw, hr, hs, h => by
    have hkind := kind_eq_of_append hv hw h
    cases w with
    | object ns =>
      simp only [chars, List.cons_append, List.append_assoc, List.nil_append, List.cons.injEq, true_and] at h
      obtain ⟨rfl, hrest⟩ := memberChars_append_inj ms ns hv hw h
      exact ⟨rfl, hrest⟩
    | bool b => cases b <;> cases hkind
    | _ => cases hkind

theorem itemChars_append_inj : ∀ (vs ws : List Json) {r s : List Char}, allItems hasText vs = true →
    allItems hasText ws = true → itemChars vs ++ ']' :: r = itemChars ws ++ ']' :: s → vs = ws ∧ r = s
  | [], [], r, s, _, _, h => ⟨rfl, (List.cons.inj h).2⟩
  | [], w :: ws, r, s, _, hw, h => by
    rw [itemChars_cons] at h
    exact absurd h.symm (chars_append_ne_closing (Bool.and_eq_true_iff.1 hw).1 (.inl rfl) _ _)
  | v :: vs, [], r, s, hv, _, h => by
    rw [itemChars_cons] at h
    exact absurd h (chars_append_ne_closing (Bool.and_eq_true_iff.1 hv).1 (.inl rfl) _ _)
  | v :: vs, w :: ws, r, s, hv, hw, h => by
    obtain ⟨hv, hvs⟩ := Bool.and_eq_true_iff.1 hv
    obtain ⟨hw, hws⟩ := Bool.and_eq_true_iff.1 hw
    rw [itemChars_cons, itemChars_cons] at h
    obtain ⟨rfl, hrest⟩ := chars_append_inj v w hv hw (endsNumber_itemTail vs r) (endsNumber_itemTail ws s) h
    cases vs with
    | nil =>
      cases ws with
      | nil => exact ⟨rfl, (List.cons.inj hrest).2⟩
      | cons w ws => exact absurd (List.cons.inj hrest).1 (by decide)
    | cons v' vs =>
      cases ws with
      | nil => exact absurd (List.cons.inj hrest).1 (by decide)
      | cons w' ws =>
        obtain ⟨hvs, hr⟩ := itemChars_append_inj (v' :: vs) (w' :: ws) hvs hws (List.cons.inj hrest).2
        exact ⟨by rw [hvs], hr⟩

theorem memberChars_append_inj : ∀ (ms ns : List (String × Json)) {r s : List Char}, allMembers hasText ms = true →
    allMembers hasText ns = true → memberChars ms ++ '\x7d' :: r = memberChars ns ++ '\x7d' :: s → ms = ns ∧ r = s
  | [], [], r, s, _, _, h => ⟨rfl, (List.cons.inj h).2⟩
  | [], (k, w) :: ns, r, s, _, hw, h => by
    rw [memberChars_cons] at h
    exact absurd (List.cons.inj h).1 (by decide)
  | (k, v) :: ms, [], r, s, hv, _, h => by
    rw [memberChars_cons] at h
    exact absurd (List.cons.inj h).1 (by decide)
  | (k, v) :: ms, (l, w) :: ns, r, s, hall, hall', h => by
    obtain ⟨hv, hms⟩ := Bool.and_eq_true_iff.1 hall
    obtain ⟨hw, hns⟩ := Bool.and_eq_true_iff.1 hall'
    rw [memberChars_cons, memberChars_cons] at h
    obtain ⟨rfl, hvalue⟩ := quoted_append_inj h
    obtain ⟨rfl, hrest⟩ := chars_append_inj v w hv hw (endsNumber_memberTail ms r) (endsNumber_memberTail ns s)
      (List.cons.inj hvalue).2
    cases ms with
    | nil =>
      cases ns with
      | nil => exact ⟨rfl, (List.cons.inj hrest).2⟩
      | cons w ws => exact absurd (List.cons.inj hrest).1 (by decide)
    | cons m ms =>
      cases ns with
      | nil => exact absurd (List.cons.inj hrest).1 (by decide)
      | cons n ns =>
        obtain ⟨hms, hr⟩ := memberChars_append_inj (m :: ms) (n :: ns) hms hns (List.cons.inj hrest).2
        exact ⟨by rw [hms], hr⟩

end

/-- The text of an object ends by itself, whatever follows. -/
theorem object_append_inj {ms ns : List (String × Json)} {r s : List Char} (hms : (object ms).isFinite = true)
    (hns : (object ns).isFinite = true) (h : (object ms).chars ++ r = (object ns).chars ++ s) : ms = ns ∧ r = s := by
  simp only [chars, List.cons_append, List.append_assoc, List.nil_append, List.cons.injEq, true_and] at h
  exact memberChars_append_inj ms ns hms hns h

end Json
end FederatedLedger
