/-!
# Cutting texts

A text cut at every character of some class, and cut once at the first or last place where something
stands.
-/

namespace FederatedLedger

/-- The parts of a text between the characters on which `p` holds. There is always one part. -/
def splitAtEach (p : Char → Bool) : List Char → List (List Char)
  | [] => [[]]
  | c :: r =>
    if p c then [] :: splitAtEach p r
    else match splitAtEach p r with
      | [] => [[c]]
      | part :: parts => (c :: part) :: parts

/-- The text before the first place where `mark` stands, and the text after it. -/
def cutAtFirst? (mark : List Char) : List Char → Option (List Char × List Char)
  | [] => if mark = [] then some ([], []) else none
  | c :: r =>
    if mark.isPrefixOf (c :: r) then some ([], (c :: r).drop mark.length)
    else (cutAtFirst? mark r).map fun (a, b) => (c :: a, b)

/-- The text after the last `c`, if there is one. -/
def afterLast? (c : Char) : List Char → Option (List Char)
  | [] => none
  | d :: r =>
    match afterLast? c r with
    | some s => some s
    | none => if d = c then some r else none

/-- The texts with `separator` between them. -/
def joinWith (separator : List Char) : List (List Char) → List Char
  | [] => []
  | [s] => s
  | s :: t :: rest => s ++ separator ++ joinWith separator (t :: rest)

theorem splitAtEach_ne_nil (p : Char → Bool) (cs : List Char) : splitAtEach p cs ≠ [] := by
  cases cs with
  | nil => simp [splitAtEach]
  | cons c r => simp only [splitAtEach]; split <;> (try split) <;> simp

/-- Cutting at a separator and joining with it gives the text back. -/
theorem joinWith_splitAtEach (c : Char) (cs : List Char) :
    joinWith [c] (splitAtEach (· == c) cs) = cs := by
  induction cs with
  | nil => rfl
  | cons d r ih =>
    simp only [splitAtEach]
    have hne := splitAtEach_ne_nil (· == c) r
    generalize splitAtEach (· == c) r = parts at ih hne ⊢
    cases parts with
    | nil => exact absurd rfl hne
    | cons part parts =>
      by_cases h : d = c
      · subst h; simp [joinWith, ih]
      · have hb : (d == c) = false := by simp [h]
        cases parts with
        | nil => simpa [hb, joinWith] using ih
        | cons q qs => simpa [hb, joinWith] using ih

/-- A text is cut at the first place of a character. -/
theorem cutAtFirst?_append {c : Char} {cs : List Char} (h : c ∉ cs) (rest : List Char) :
    cutAtFirst? [c] (cs ++ c :: rest) = some (cs, rest) := by
  induction cs with
  | nil => simp [cutAtFirst?]
  | cons d cs ih =>
    rw [List.mem_cons, not_or] at h
    simp [cutAtFirst?, h.1, ih h.2]

theorem afterLast?_of_not_mem {c : Char} {cs : List Char} (h : c ∉ cs) : afterLast? c cs = none := by
  induction cs with
  | nil => rfl
  | cons d cs ih =>
    rw [List.mem_cons, not_or] at h
    rw [afterLast?, ih h.2]
    simp [Ne.symm h.1]

/-- A text with a character is cut behind the last one. -/
theorem afterLast?_eq_some {c : Char} : ∀ {cs r : List Char}, afterLast? c cs = some r → ∃ front, cs = front ++ c :: r
  | [], _, h => by cases h
  | d :: cs, r, h => by
    rw [afterLast?] at h
    split at h
    · rename_i s hs
      obtain rfl := Option.some.inj h
      obtain ⟨front, rfl⟩ := afterLast?_eq_some hs
      exact ⟨d :: front, rfl⟩
    · split at h
      · rename_i hd
        obtain rfl := Option.some.inj h
        exact ⟨[], by rw [hd]; rfl⟩
      · cases h

/-- What is taken of a text ends where it stops. -/
theorem takeWhile_append_of_head {p : Char → Bool} {cs rest : List Char} (hcs : ∀ c ∈ cs, p c = true)
    (hrest : ∀ c ∈ rest.head?, p c = false) : (cs ++ rest).takeWhile p = cs := by
  rw [List.takeWhile_append_of_pos hcs]
  cases rest with
  | nil => simp
  | cons c rest => simp [hrest c rfl]

theorem dropWhile_append_of_head {p : Char → Bool} {cs rest : List Char} (hcs : ∀ c ∈ cs, p c = true)
    (hrest : ∀ c ∈ rest.head?, p c = false) : (cs ++ rest).dropWhile p = rest := by
  rw [List.dropWhile_append_of_pos hcs]
  cases rest with
  | nil => rfl
  | cons c rest => simp [hrest c rfl]

section
variable {p : Char → Bool} {c d : Char} {cs part : List Char} {parts : List (List Char)}

theorem splitAtEach_cons_of_not (cs : List Char) (hc : p c = false) :
    ∃ part parts, splitAtEach p cs = part :: parts ∧ splitAtEach p (c :: cs) = (c :: part) :: parts := by
  cases h : splitAtEach p cs with
  | nil => exact absurd h (splitAtEach_ne_nil p cs)
  | cons part parts => exact ⟨part, parts, rfl, by simp [splitAtEach, hc, h]⟩

theorem splitAtEach_cons_of_sep (hc : p c = true) : splitAtEach p (c :: cs) = [] :: splitAtEach p cs := by
  rw [splitAtEach, if_pos hc]

/-- The parts of a text are made of its characters, those at which it is cut aside. -/
theorem forall_mem_of_mem_splitAtEach (h : part ∈ splitAtEach p cs) : ∀ c ∈ part, c ∈ cs ∧ p c = false := by
  induction cs generalizing part with
  | nil =>
    obtain rfl := List.mem_singleton.1 h
    exact nofun
  | cons d cs ih =>
    have htail {q : List Char} (hq : q ∈ splitAtEach p cs) : ∀ c ∈ q, c ∈ d :: cs ∧ p c = false := fun c hc =>
      ⟨List.mem_cons_of_mem d (ih hq c hc).1, (ih hq c hc).2⟩
    cases hd : p d with
    | true =>
      rw [splitAtEach_cons_of_sep hd] at h
      rcases List.mem_cons.1 h with rfl | h
      · exact nofun
      · exact htail h
    | false =>
      obtain ⟨first, rest, hcs, hcons⟩ := splitAtEach_cons_of_not cs hd
      rw [hcons] at h
      rcases List.mem_cons.1 h with rfl | h
      · exact List.forall_mem_cons.2 ⟨⟨List.mem_cons_self, hd⟩, htail (by rw [hcs]; exact List.mem_cons_self)⟩
      · exact htail (by rw [hcs]; exact List.mem_cons_of_mem _ h)

theorem sublist_of_mem_splitAtEach (h : part ∈ splitAtEach p cs) : part.Sublist cs := by
  induction cs generalizing part with
  | nil =>
    obtain rfl := List.mem_singleton.1 h
    exact .slnil
  | cons d cs ih =>
    cases hd : p d with
    | true =>
      rw [splitAtEach_cons_of_sep hd] at h
      rcases List.mem_cons.1 h with rfl | h
      · exact List.nil_sublist _
      · exact (ih h).cons d
    | false =>
      obtain ⟨first, rest, hcs, hcons⟩ := splitAtEach_cons_of_not cs hd
      rw [hcons] at h
      rcases List.mem_cons.1 h with rfl | h
      · exact (ih (by rw [hcs]; exact List.mem_cons_self)).cons_cons d
      · exact (ih (by rw [hcs]; exact List.mem_cons_of_mem _ h)).cons d

theorem splitAtEach_of_forall (h : ∀ c ∈ cs, p c = false) : splitAtEach p cs = [cs] := by
  induction cs with
  | nil => rfl
  | cons c cs ih =>
    rw [List.forall_mem_cons] at h
    rw [splitAtEach, ih h.2, if_neg (by simp [h.1])]

/-- A text is cut behind its first part. -/
theorem splitAtEach_append_cons (h : ∀ d ∈ part, p d = false) (hc : p c = true) :
    splitAtEach p (part ++ c :: cs) = part :: splitAtEach p cs := by
  induction part with
  | nil => exact splitAtEach_cons_of_sep hc
  | cons d part ih =>
    rw [List.forall_mem_cons] at h
    rw [List.cons_append, splitAtEach, ih h.2, if_neg (by simp [h.1])]

/-- Parts that are joined with a separator, and hold none themselves, are found again. -/
theorem splitAtEach_joinWith (hc : p c = true) : ∀ {parts : List (List Char)}, parts ≠ [] →
    (∀ part ∈ parts, ∀ d ∈ part, p d = false) → splitAtEach p (joinWith [c] parts) = parts
  | [], hne, _ => absurd rfl hne
  | [part], _, h => splitAtEach_of_forall (h part List.mem_cons_self)
  | part :: next :: rest, _, h => by
    rw [List.forall_mem_cons] at h
    rw [joinWith, List.append_assoc, List.singleton_append, splitAtEach_append_cons h.1 hc,
      splitAtEach_joinWith hc (List.cons_ne_nil next rest) h.2]

theorem forall_mem_joinWith {P : Char → Prop} : ∀ {parts : List (List Char)}, P c →
    (∀ part ∈ parts, ∀ d ∈ part, P d) → ∀ d ∈ joinWith [c] parts, P d
  | [], _, _ => nofun
  | [part], _, h => h part List.mem_cons_self
  | part :: next :: rest, hc, h => by
    rw [List.forall_mem_cons] at h
    rw [joinWith]
    exact List.forall_mem_append.2 ⟨List.forall_mem_append.2 ⟨h.1, List.forall_mem_singleton.2 hc⟩,
      forall_mem_joinWith hc h.2⟩

theorem mem_joinWith_of_mem : ∀ {parts : List (List Char)}, part ∈ parts → d ∈ part → d ∈ joinWith [c] parts
  | [], h, _ => absurd h List.not_mem_nil
  | [only], h, hd => List.mem_singleton.1 h ▸ hd
  | first :: next :: rest, h, hd => by
    rw [joinWith]
    rcases List.mem_cons.1 h with rfl | h
    · exact List.mem_append_left _ (List.mem_append_left _ hd)
    · exact List.mem_append_right _ (mem_joinWith_of_mem h hd)

end

end FederatedLedger
