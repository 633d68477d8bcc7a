import FederatedLedger.Url.Punycode
import Mathlib.Tactic.Ring
import Mathlib.Data.List.TakeWhile

/-!
# Punycode reads back

The writer goes through the text once for each code point, in increasing order, and counts the places that it passes;
the reader, which has the characters of the smaller code points, moves on by what was counted and inserts one more
there. While both are `InStep`, the places that the reader is moved on by lead to where the writer stands
(`InStep.writeAll`). So every text is read from what was written of it (`decode?_encode`).
-/

namespace FederatedLedger
namespace Punycode

/-! ## Digits -/

theorem digitValue?_digit : ∀ {n : Nat}, n < 36 → digitValue? (digit n) = some n := by
  decide

theorem digit_ne_hyphen : ∀ {n : Nat}, n < 36 → digit n ≠ '-' := by
  decide

theorem threshold_bounds (k bias : Nat) : 1 ≤ threshold k bias ∧ threshold k bias ≤ 26 := by
  unfold threshold
  split
  · omega
  · split <;> omega

theorem distance_eq (bias k q : Nat) : distance bias k q =
    if q < threshold k bias then [digit q]
    else digit (threshold k bias + (q - threshold k bias) % (36 - threshold k bias)) ::
      distance bias (k + 36) ((q - threshold k bias) / (36 - threshold k bias)) := by
  have hbounds := threshold_bounds k bias
  rw [distance]
  by_cases h : q < threshold k bias
  · rw [dif_pos (.inl h), if_pos h]
  · rw [dif_neg (by omega), if_neg h]

/-- The reader with the place that a distance led to: a character is inserted there. -/
def Reader.insert? (s : Reader) (place : Nat) : Option Reader :=
  let count := s.text.length + 1
  let code := s.code + place / count
  let i := place % count
  if code < 0x110000 ∧ ¬ (0xD800 ≤ code ∧ code < 0xE000) then
    some ⟨s.text.take i ++ code :: s.text.drop i, code, i + 1, adapt (place - s.start) count (s.start = 0), i + 1, 1, 36⟩
  else none

theorem Reader.step?_digit {s : Reader} {d : Nat} (hd : d < 36) : s.step? (digit d) =
    if d < threshold s.position s.bias then s.insert? (s.place + d * s.weight)
    else some { s with place := s.place + d * s.weight, weight := s.weight * (36 - threshold s.position s.bias),
                       position := s.position + 36 } := by
  rw [step?, digitValue?_digit hd]
  simp only [Option.bind_eq_bind, Option.bind_some, insert?]
  split
  · simp only [guard]
    split <;> rfl
  · rfl

/-- A distance moves the reader on by its value, in units of the weight. -/
theorem foldlM_distance (r : List Char) : ∀ (q : Nat) (s : Reader),
    (distance s.bias s.position q ++ r).foldlM Reader.step? s =
      (s.insert? (s.place + q * s.weight)).bind (r.foldlM Reader.step?) := by
  intro q
  induction q using Nat.strongRecOn with
  | ind q ih =>
    intro s
    obtain ⟨hpos, hle⟩ := threshold_bounds s.position s.bias
    rw [distance_eq]
    by_cases hq : q < threshold s.position s.bias
    · rw [if_pos hq, List.singleton_append, List.foldlM_cons, Reader.step?_digit (by omega), if_pos hq]
      rfl
    · generalize ht : threshold s.position s.bias = t at hq hpos hle ⊢
      have hdigit : t + (q - t) % (36 - t) < 36 := by
        have := Nat.mod_lt (q - t) (show 0 < 36 - t by omega)
        omega
      have hless : (q - t) / (36 - t) < q := Nat.lt_of_le_of_lt (Nat.div_le_self _ _) (by omega)
      rw [if_neg hq, List.cons_append, List.foldlM_cons, Reader.step?_digit hdigit, ht, if_neg (by omega)]
      refine (ih _ hless { s with
        place := s.place + (t + (q - t) % (36 - t)) * s.weight, weight := s.weight * (36 - t),
        position := s.position + 36 }).trans ?_
      -- the rest of the distance weighs as much more as this digit leaves out
      have hvalue : s.place + (t + (q - t) % (36 - t)) * s.weight + (q - t) / (36 - t) * (s.weight * (36 - t)) =
          s.place + q * s.weight := by
        have hdiv := Nat.div_add_mod (q - t) (36 - t)
        have hq' : q = t + ((36 - t) * ((q - t) / (36 - t)) + (q - t) % (36 - t)) := by omega
        generalize (q - t) / (36 - t) = a at hq' ⊢
        generalize (q - t) % (36 - t) = b at hq' ⊢
        rw [hq']
        ring
      rw [hvalue]
      rfl

/-! ## Writer and reader -/

/-- Whether a number is the code point of a character. -/
def IsScalar (n : Nat) : Prop := n < 0x110000 ∧ ¬ (0xD800 ≤ n ∧ n < 0xE000)

/-- The reader stands between two distances, with what the writer has written so far, of which `basic` characters
were there from the start. -/
structure Reader.Follows (basic : Nat) (w : Writer) (s : Reader) : Prop where
  weight : s.weight = 1
  position : s.position = 36
  start : s.start = s.place
  bias : s.bias = w.bias
  written : w.written = s.text.length
  fresh : s.place = 0 ∧ w.written = basic ∨ 0 < s.place ∧ basic < w.written

/-- The writer is at work on the code point `m` and has passed `passed`; `ahead` lies ahead. The reader has the smaller
characters, and those for `m` that were passed, and is to move on to where the next one belongs. -/
structure InStep (basic m : Nat) (passed ahead : List Nat) (w : Writer) (s : Reader) : Prop extends
    s.Follows basic w where
  text : s.text = passed.filter (· ≤ m) ++ ahead.filter (· < m)
  code : s.code ≤ m
  moves : s.place + w.delta = (m - s.code) * (w.written + 1) + (passed.filter (· ≤ m)).length

section
variable {basic m : Nat} {passed ahead : List Nat} {w : Writer} {s : Reader}

theorem Reader.foldlM_distance_of_follows (h : s.Follows basic w) (q : Nat) (r : List Char) :
    (distance w.bias 36 q ++ r).foldlM Reader.step? s = (s.insert? (s.place + q)).bind (r.foldlM Reader.step?) := by
  have := foldlM_distance r q s
  rwa [h.bias, h.position, h.weight, Nat.mul_one] at this

/-- The reader inserts the code point that the writer is at work on, where it stands. -/
theorem InStep.insert (h : InStep basic m passed (m :: ahead) w s) (hm : IsScalar m) :
    ∃ s', s.insert? (s.place + w.delta) = some s' ∧
      InStep basic m (passed ++ [m]) ahead ⟨0, adapt w.delta (w.written + 1) (w.written = basic), w.written + 1⟩ s' := by
  have hahead : (m :: ahead).filter (· < m) = ahead.filter (· < m) := by simp
  have htext := h.text
  rw [hahead] at htext
  have hlength : (passed.filter (· ≤ m)).length < s.text.length + 1 := by
    rw [htext, List.length_append]
    omega
  have hplace : s.place + w.delta = (passed.filter (· ≤ m)).length + (s.text.length + 1) * (m - s.code) := by
    rw [h.moves, h.written]
    ring
  have hdiv : (s.place + w.delta) / (s.text.length + 1) = m - s.code := by
    rw [hplace, Nat.add_mul_div_left _ _ (Nat.succ_pos _), Nat.div_eq_of_lt hlength, Nat.zero_add]
  have hmod : (s.place + w.delta) % (s.text.length + 1) = (passed.filter (· ≤ m)).length := by
    rw [hplace, Nat.add_mul_mod_self_left, Nat.mod_eq_of_lt hlength]
  have hcode : s.code + (m - s.code) = m := by have := h.code; omega
  have hdelta : s.place + w.delta - s.start = w.delta := by rw [h.start]; omega
  have hfirst : (s.start = 0) ↔ (w.written = basic) := by
    have := h.fresh
    rw [h.start]
    omega
  unfold Reader.insert?
  simp only [hdiv, hmod, hcode, hdelta, hfirst]
  rw [if_pos (show m < 0x110000 ∧ ¬ (0xD800 ≤ m ∧ m < 0xE000) from hm)]
  refine ⟨_, rfl, { weight := rfl, position := rfl, start := rfl, bias := ?_, written := ?_, fresh := ?_, text := ?_,
                    code := Nat.le_refl _, moves := ?_ }⟩
  · rw [h.written]
  · rw [h.written, htext]
    simp
    omega
  · have := h.fresh
    exact .inr ⟨Nat.succ_pos _, by dsimp only; omega⟩
  · rw [htext]
    simp
  · simp

/-- **One pass.** What the writer writes while it goes through the rest of the text keeps the reader in step. -/
theorem InStep.writeAll (hscalar : ∀ c ∈ ahead, IsScalar c) (h : InStep basic m passed ahead w s) (r : List Char) :
    ∃ s', ((writeAll m basic w ahead).1 ++ r).foldlM Reader.step? s = r.foldlM Reader.step? s' ∧
      InStep basic m (passed ++ ahead) [] (writeAll m basic w ahead).2 s' := by
  induction ahead generalizing passed w s with
  | nil => exact ⟨s, rfl, by simpa [writeAll] using h⟩
  | cons c ahead ih =>
    rw [List.forall_mem_cons] at hscalar
    rw [List.append_cons]
    rcases Nat.lt_trichotomy c m with hlt | rfl | hgt
    · -- a smaller character is there already: the writer passes a place
      rw [Punycode.writeAll, if_pos hlt]
      have hstep : InStep basic m (passed ++ [c]) ahead { w with delta := w.delta + 1 } s := { h with
        text := by rw [h.text]; simp [hlt, hlt.le]
        moves := by have := h.moves; simp [hlt.le]; omega }
      exact ih hscalar.2 hstep
    · -- the character itself is written, and inserted
      obtain ⟨s', hs', hstep⟩ := h.insert hscalar.1
      obtain ⟨s'', hs'', hstep'⟩ := ih hscalar.2 hstep
      rw [Punycode.writeAll, if_neg (Nat.lt_irrefl c), if_pos rfl]
      refine ⟨s'', ?_, hstep'⟩
      dsimp only
      rw [List.append_assoc, Reader.foldlM_distance_of_follows h.toFollows, hs']
      exact hs''
    · -- a greater one comes later
      rw [Punycode.writeAll, if_neg (Nat.lt_asymm hgt), if_neg (Nat.ne_of_gt hgt)]
      have hstep : InStep basic m (passed ++ [c]) ahead w s := { h with
        text := by rw [h.text]; simp [hgt.not_ge, hgt.not_gt]
        moves := by rw [h.moves]; simp [hgt.not_ge] }
      exact ih hscalar.2 hstep

/-- The reader has the characters below `n`, and is to move on to code point `n`. -/
structure Between (text : List Nat) (basic n : Nat) (w : Writer) (s : Reader) : Prop extends s.Follows basic w where
  text : s.text = text.filter (· < n)
  code : s.code ≤ n
  moves : s.place + w.delta = (n - s.code) * (w.written + 1)

/-- The code points from `n` on, in increasing order. -/
structure Covers (text : List Nat) (n : Nat) (ms : List Nat) : Prop where
  least : ∀ m ∈ ms, n ≤ m
  ascends : ms.Pairwise (· < ·)
  covers : ∀ c ∈ text, n ≤ c → c ∈ ms

variable {text ms : List Nat} {n : Nat}

theorem Covers.tail (h : Covers text n (m :: ms)) : Covers text (m + 1) ms where
  least := (List.pairwise_cons.1 h.ascends).1
  ascends := (List.pairwise_cons.1 h.ascends).2
  covers c hc hle := by
    rcases List.mem_cons.1 (h.covers c hc (by have := h.least m List.mem_cons_self; omega)) with rfl | hmem
    · omega
    · exact hmem

theorem Covers.filter_lt (h : Covers text n (m :: ms)) : text.filter (· < m) = text.filter (· < n) := by
  have hle := h.least m List.mem_cons_self
  refine List.filter_congr fun c hc => decide_eq_decide.2 ⟨fun hcm => ?_, fun hcn => Nat.lt_of_lt_of_le hcn hle⟩
  by_contra hn
  rcases List.mem_cons.1 (h.covers c hc (Nat.not_lt.1 hn)) with rfl | hmem
  · omega
  · have := (List.pairwise_cons.1 h.ascends).1 c hmem
    omega

/-- **All passes.** The reader gets all of the text. -/
theorem Between.writeFrom (hscalar : ∀ c ∈ text, IsScalar c) (hms : Covers text n ms) (h : Between text basic n w s) :
    ∃ s', (writeFrom text basic n w ms).foldlM Reader.step? s = some s' ∧ s'.text = text ∧ s'.position = 36 := by
  induction ms generalizing n w s with
  | nil =>
    refine ⟨s, rfl, ?_, h.position⟩
    rw [h.text, List.filter_eq_self]
    intro c hc
    by_contra hle
    exact absurd (hms.covers c hc (by simpa using hle)) List.not_mem_nil
  | cons m ms ih =>
    have hle := hms.least m List.mem_cons_self
    have hstart : InStep basic m [] text { w with delta := w.delta + (m - n) * (w.written + 1) } s :=
      { h with
        text := by rw [hms.filter_lt]; exact h.text
        code := Nat.le_trans h.code hle
        moves := by
          have hmoves := h.moves
          have hcode := h.code
          have hsplit : m - s.code = (n - s.code) + (m - n) := by omega
          rw [hsplit, Nat.add_mul, ← hmoves]
          simp
          omega }
    obtain ⟨s', hs', hstep⟩ := hstart.writeAll hscalar (writeFrom text basic (m + 1)
      { (writeAll m basic { w with delta := w.delta + (m - n) * (w.written + 1) } text).2 with
        delta := (writeAll m basic { w with delta := w.delta + (m - n) * (w.written + 1) } text).2.delta + 1 } ms)
    rw [Punycode.writeFrom]
    dsimp only
    rw [hs']
    refine ih hms.tail { hstep with text := ?_, code := Nat.le_succ_of_le hstep.code, moves := ?_ }
    · rw [hstep.text, List.nil_append, List.filter_nil, List.append_nil]
      exact List.filter_congr fun c _ => decide_eq_decide.2 Nat.lt_succ_iff.symm
    · have hcode := hstep.code
      have hwritten : (text.filter (· ≤ m)).length = s'.text.length := by rw [hstep.text]; simp
      have hmoves := hstep.moves
      have hsplit : m + 1 - s'.code = (m - s'.code) + 1 := by omega
      rw [List.nil_append, hwritten, ← hstep.written] at hmoves
      rw [hsplit, Nat.add_mul, Nat.one_mul]
      dsimp only
      omega

end

/-! ## Whole texts -/

theorem mem_insertOnce {n m : Nat} {ms : List Nat} : m ∈ insertOnce n ms ↔ m = n ∨ m ∈ ms := by
  induction ms with
  | nil => simp [insertOnce]
  | cons k ms ih =>
    rw [insertOnce]
    split
    · simp
    · split
      · rename_i h; simp [h]
      · simp [ih, or_left_comm]

theorem pairwise_insertOnce {n : Nat} {ms : List Nat} (h : ms.Pairwise (· < ·)) :
    (insertOnce n ms).Pairwise (· < ·) := by
  induction ms with
  | nil => simp [insertOnce]
  | cons k ms ih =>
    obtain ⟨hk, hms⟩ := List.pairwise_cons.1 h
    rw [insertOnce]
    split
    · rename_i hnk
      exact List.pairwise_cons.2 ⟨List.forall_mem_cons.2 ⟨hnk, fun m hm => hnk.trans (hk m hm)⟩, h⟩
    · split
      · exact h
      · refine List.pairwise_cons.2 ⟨fun m hm => ?_, ih hms⟩
        rcases mem_insertOnce.1 hm with rfl | hm
        · omega
        · exact hk m hm

theorem mem_foldl_insertOnce {m : Nat} : ∀ {ns ms : List Nat},
    m ∈ ns.foldl (fun ms n => insertOnce n ms) ms ↔ m ∈ ns ∨ m ∈ ms
  | [], ms => by simp
  | n :: ns, ms => by
    rw [List.foldl_cons, mem_foldl_insertOnce, mem_insertOnce, List.mem_cons]
    tauto

theorem pairwise_foldl_insertOnce : ∀ {ns ms : List Nat}, ms.Pairwise (· < ·) →
    (ns.foldl (fun ms n => insertOnce n ms) ms).Pairwise (· < ·)
  | [], _, h => h
  | n :: ns, ms, h => by
    rw [List.foldl_cons]
    exact pairwise_foldl_insertOnce (pairwise_insertOnce h)

/-- The code points that the writer goes through. -/
theorem covers_others (text : List Nat) :
    Covers text 0x80 ((text.filter (0x80 ≤ ·)).foldl (fun ms n => insertOnce n ms) []) where
  least m hm := by simpa using (List.mem_filter.1 ((mem_foldl_insertOnce.1 hm).resolve_right List.not_mem_nil)).2
  ascends := pairwise_foldl_insertOnce List.Pairwise.nil
  covers c hc hle := mem_foldl_insertOnce.2 (.inl (List.mem_filter.2 ⟨hc, by simpa using hle⟩))

theorem forall_mem_distance {P : Char → Prop} (hdigit : ∀ n < 36, P (digit n)) (bias k q : Nat) :
    ∀ c ∈ distance bias k q, P c := by
  induction q using Nat.strongRecOn generalizing k with
  | ind q ih =>
    obtain ⟨hpos, hle⟩ := threshold_bounds k bias
    rw [distance_eq]
    split
    · exact List.forall_mem_singleton.2 (hdigit q (by omega))
    · rename_i hq
      have hmod := Nat.mod_lt (q - threshold k bias) (show 0 < 36 - threshold k bias by omega)
      exact List.forall_mem_cons.2 ⟨hdigit _ (by omega),
        ih _ (Nat.lt_of_le_of_lt (Nat.div_le_self _ _) (by omega)) _⟩

theorem forall_mem_writeAll {P : Char → Prop} (hdigit : ∀ n < 36, P (digit n)) {m basic : Nat} :
    ∀ (w : Writer) (text : List Nat), ∀ c ∈ (writeAll m basic w text).1, P c
  | _, [] => nofun
  | w, d :: text => by
    rw [writeAll]
    split
    · exact forall_mem_writeAll hdigit _ text
    · split
      · exact List.forall_mem_append.2 ⟨forall_mem_distance hdigit _ _ _, forall_mem_writeAll hdigit _ text⟩
      · exact forall_mem_writeAll hdigit _ text

/-- What is written after the last hyphen are digits. -/
theorem forall_mem_writeFrom {P : Char → Prop} (hdigit : ∀ n < 36, P (digit n)) {text : List Nat} {basic : Nat} :
    ∀ (n : Nat) (w : Writer) (ms : List Nat), ∀ c ∈ writeFrom text basic n w ms, P c
  | _, _, [] => nofun
  | n, w, m :: ms => by
    rw [writeFrom]
    exact List.forall_mem_append.2 ⟨forall_mem_writeAll hdigit _ _, forall_mem_writeFrom hdigit _ _ ms⟩

/-- The characters of a text in Punycode: the ASCII ones of the text, hyphens and digits. -/
theorem forall_mem_encode {P : Char → Prop} {cs : List Char} (hbasic : ∀ c ∈ cs, c.toNat < 0x80 → P c) (hhyphen : P '-')
    (hdigit : ∀ n < 36, P (digit n)) : ∀ c ∈ encode cs, P c := by
  have hfilter : ∀ c ∈ cs.filter (fun c => c.toNat < 0x80), P c := fun c hc =>
    hbasic c (List.mem_filter.1 hc).1 (by simpa using (List.mem_filter.1 hc).2)
  refine List.forall_mem_append.2 ⟨?_, forall_mem_writeFrom hdigit _ _ _⟩
  split
  · exact nofun
  · exact List.forall_mem_append.2 ⟨hfilter, List.forall_mem_singleton.2 hhyphen⟩

/-- A text is cut at its last hyphen. -/
theorem cutLastHyphen_append {basic digits : List Char} (hdigits : ∀ c ∈ digits, c ≠ '-') :
    cutLastHyphen ((if basic = [] then [] else basic ++ ['-']) ++ digits) = (basic, digits) := by
  have htail : ∀ c ∈ digits.reverse, decide (c ≠ '-') = true := fun c hc =>
    decide_eq_true (hdigits c (List.mem_reverse.1 hc))
  by_cases hbasic : basic = []
  · subst hbasic
    have hall : digits.reverse.takeWhile (· ≠ '-') = digits.reverse := List.takeWhile_eq_self_iff.2 htail
    rw [if_pos rfl, List.nil_append, cutLastHyphen, hall, List.reverse_reverse]
    simp
  · have htake : ((basic ++ ['-']) ++ digits).reverse.takeWhile (· ≠ '-') = digits.reverse := by
      rw [List.reverse_append, List.takeWhile_append_of_pos htail]
      simp
    have hlength := List.length_pos_iff.2 hbasic
    rw [if_neg hbasic, cutLastHyphen, htake, List.reverse_reverse]
    simp only [List.length_append, List.length_singleton]
    rw [if_neg (by omega), show basic.length + 1 + digits.length - digits.length - 1 = basic.length by omega,
      List.append_assoc, List.take_left]

theorem isScalar_toNat (c : Char) : IsScalar c.toNat := by
  have : c.toNat < 0xD800 ∨ 0xDFFF < c.toNat ∧ c.toNat < 0x110000 := c.valid
  constructor <;> omega

/-- **Punycode reads back.** -/
theorem decode?_encode (cs : List Char) : decode? (encode cs) = some cs := by
  let text := cs.map Char.toNat
  let basic := cs.filter fun c => c.toNat < 0x80
  let others := (text.filter (0x80 ≤ ·)).foldl (fun ms n => insertOnce n ms) []
  let w : Writer := ⟨0, 72, basic.length⟩
  let s : Reader := ⟨basic.map Char.toNat, 0x80, 0, 72, 0, 1, 36⟩
  have hcut : cutLastHyphen (encode cs) = (basic, writeFrom text basic.length 0x80 w others) :=
    cutLastHyphen_append (forall_mem_writeFrom (fun n hn => digit_ne_hyphen hn) _ _ _)
  have hascii : basic.all (fun c => c.toNat < 0x80) = true := by simp [basic]
  have hscalar : ∀ c ∈ text, IsScalar c := List.forall_mem_map.2 fun c _ => isScalar_toNat c
  have hbetween : Between text basic.length 0x80 w s :=
    { weight := rfl, position := rfl, start := rfl, bias := rfl, code := Nat.le_refl _, moves := by simp [s, w]
      written := by simp [s, w]
      fresh := .inl ⟨rfl, rfl⟩
      text := by simp [s, text, basic, List.filter_map, Function.comp_def] }
  obtain ⟨s', hs', htext, hposition⟩ := hbetween.writeFrom hscalar (covers_others text)
  have hchars : text.map Char.ofNat = cs := by simp [text, Function.comp_def]
  simp only [decode?, hcut, hascii, guard]
  rw [if_pos trivial]
  simp only [Option.bind_eq_bind, pure, Option.bind_some]
  rw [hs']
  simp [hposition, htext, hchars]

end Punycode
end FederatedLedger
