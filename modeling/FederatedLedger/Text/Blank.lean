/-!
# White space

The characters with the Unicode property `White_Space`, and trimming by them. `trim` takes blanks off
both ends and leaves the rest alone: what it keeps neither starts nor ends with a blank.
-/

namespace FederatedLedger

/-- The characters of the Unicode property `White_Space`. -/
def isBlank (c : Char) : Bool :=
  let n := c.toNat
  (9 ≤ n && n ≤ 13) || n == 0x20 || n == 0x85 || n == 0xA0 || n == 0x1680 ||
  (0x2000 ≤ n && n ≤ 0x200A) || n == 0x2028 || n == 0x2029 || n == 0x202F || n == 0x205F ||
  n == 0x3000

/-- Drops the longest tail of `cs` on which `p` holds. -/
def dropTrailing (p : Char → Bool) (cs : List Char) : List Char :=
  (cs.reverse.dropWhile p).reverse

/-- `cs` without the blanks at its two ends. -/
def trimBlanks (cs : List Char) : List Char :=
  dropTrailing isBlank (cs.dropWhile isBlank)

/-- `trimBlanks` on strings. -/
def trim (s : String) : String :=
  String.ofList (trimBlanks s.toList)

/-- Upper-case ASCII letters become lower-case; every other character is kept. -/
def asciiLower (s : String) : String :=
  String.ofList (s.toList.map Char.toLower)

/-- Characters beyond ASCII have no case here. -/
theorem toLower_of_le {c : Char} (h : 128 ≤ c.toNat) : c.toLower = c := by
  refine dif_neg fun hrange => ?_
  have hle : c.toNat ≤ 90 := hrange.2
  omega

/-- Equality of strings up to the case of ASCII letters. -/
def sameIgnoringCase (s t : String) : Bool :=
  asciiLower s == asciiLower t

theorem dropTrailing_append_singleton (p : Char → Bool) (cs : List Char) (c : Char) :
    dropTrailing p (cs ++ [c]) = if p c then dropTrailing p cs else cs ++ [c] := by
  by_cases h : p c <;> simp [dropTrailing, h]

theorem sameIgnoringCase_iff {s t : String} : sameIgnoringCase s t = true ↔ asciiLower s = asciiLower t := beq_iff_eq

theorem dropWhile_of_forall {p : Char → Bool} {cs : List Char} (h : ∀ c ∈ cs, p c = false) : cs.dropWhile p = cs := by
  cases cs with
  | nil => rfl
  | cons c cs => rw [List.dropWhile_cons, if_neg (by simp [h c])]

theorem dropTrailing_of_getLast? {p : Char → Bool} {cs : List Char} (h : ∀ c ∈ cs.getLast?, p c = false) :
    dropTrailing p cs = cs := by
  have hhead : cs.reverse.dropWhile p = cs.reverse := by
    cases hreverse : cs.reverse with
    | nil => rfl
    | cons c r =>
      have hc : p c = false := h c (by rw [← List.head?_reverse, hreverse]; rfl)
      rw [List.dropWhile_cons, if_neg (by simp [hc])]
  rw [dropTrailing, hhead, List.reverse_reverse]

theorem dropTrailing_of_forall {p : Char → Bool} {cs : List Char} (h : ∀ c ∈ cs, p c = false) :
    dropTrailing p cs = cs :=
  dropTrailing_of_getLast? fun c hc => h c (List.mem_of_getLast? hc)

theorem dropTrailing_append {p : Char → Bool} {front : List Char} (h : ∀ c ∈ front, p c = false) (cs : List Char) :
    dropTrailing p (front ++ cs) = front ++ dropTrailing p cs := by
  have hreverse : ∀ c ∈ front.reverse, p c = false := fun c hc => h c (List.mem_reverse.1 hc)
  rw [dropTrailing, dropTrailing, List.reverse_append, List.dropWhile_append, dropWhile_of_forall hreverse]
  split
  · rename_i hnil
    rw [List.isEmpty_iff.1 hnil, List.reverse_reverse, List.reverse_nil, List.append_nil]
  · rw [List.reverse_append, List.reverse_reverse]

theorem dropTrailing_sublist (p : Char → Bool) (cs : List Char) : (dropTrailing p cs).Sublist cs := by
  have h := (List.dropWhile_sublist p (l := cs.reverse)).reverse
  rwa [List.reverse_reverse] at h

/-- Nothing is left at the end of a text on which `p` holds. -/
theorem getLast?_dropTrailing (p : Char → Bool) (cs : List Char) : ∀ c ∈ (dropTrailing p cs).getLast?, p c = false := by
  intro c hc
  have hhead := List.head?_dropWhile_not p cs.reverse
  rw [dropTrailing, List.getLast?_reverse] at hc
  rw [Option.mem_def.1 hc] at hhead
  simpa using hhead

theorem trimBlanks_of_forall {cs : List Char} (h : ∀ c ∈ cs, isBlank c = false) : trimBlanks cs = cs := by
  rw [trimBlanks, dropWhile_of_forall h, dropTrailing_of_forall h]

/-- Trimming leaves what stands between blanks and holds none. -/
theorem trimBlanks_append {before core after : List Char} (hbefore : ∀ c ∈ before, isBlank c = true)
    (hcore : ∀ c ∈ core, isBlank c = false) (hafter : ∀ c ∈ after, isBlank c = true) :
    trimBlanks (before ++ (core ++ after)) = core := by
  rw [trimBlanks, List.dropWhile_append_of_pos hbefore]
  cases core with
  | nil =>
    have hnone : (after ++ []).dropWhile isBlank = [] := List.dropWhile_append_of_pos hafter
    rw [List.nil_append, ← List.append_nil after, hnone]
    rfl
  | cons c core =>
    have hc : isBlank c = false := hcore c List.mem_cons_self
    rw [List.cons_append, List.dropWhile_cons, if_neg (by simp [hc]), ← List.cons_append, dropTrailing,
      List.reverse_append, List.dropWhile_append_of_pos fun c hc => hafter c (List.mem_reverse.1 hc)]
    exact dropTrailing_of_forall hcore

/-- What trimming takes off is blank. -/
theorem exists_trimBlanks (cs : List Char) : ∃ before after, cs = before ++ (trimBlanks cs ++ after) ∧
    (∀ c ∈ before, isBlank c = true) ∧ ∀ c ∈ after, isBlank c = true := by
  let rest := cs.dropWhile isBlank
  have hrest : rest = trimBlanks cs ++ (rest.reverse.takeWhile isBlank).reverse := by
    rw [trimBlanks, dropTrailing, ← List.reverse_append, List.takeWhile_append_dropWhile, List.reverse_reverse]
  refine ⟨cs.takeWhile isBlank, (rest.reverse.takeWhile isBlank).reverse, ?_, ?_, ?_⟩
  · rw [← hrest, List.takeWhile_append_dropWhile]
  · exact List.all_eq_true.1 List.all_takeWhile
  · intro c hc
    exact List.all_eq_true.1 List.all_takeWhile c (List.mem_reverse.1 hc)

/-- Nothing is trimmed from a text without blanks. -/
theorem trim_eq_self {s : String} (h : ∀ c ∈ s.toList, isBlank c = false) : trim s = s := by
  rw [trim, trimBlanks_of_forall h, String.ofList_toList]

end FederatedLedger
