import FederatedLedger.Proofs.HostNames
import FederatedLedger.Proofs.Numeral
import FederatedLedger.Url.Ip
import Mathlib.Data.Option.Basic

/-!
# Addresses of hosts, written and read

The text of an address is read back as the address (`Ipv4.parse?_chars`, `Ipv6.parse?_body`). An IPv4 address that was
read has 32 bits (`Ipv4.parse?_lt`), so its four parts are all of it. An IPv6 address has eight pieces of 16 bits
(`Ipv6.sound_of_parse?`), and what is left out of its text is zeros, which the gap stands for.
-/

namespace FederatedLedger

/-! ## Digits -/

namespace Hex

theorem digitValue?_digitChar : ∀ {n : Nat}, n < 16 → digitValue? n.digitChar = some n := by
  decide

end Hex

namespace Ipv4
variable {base n a : Nat} {cs : List Char} {c : Char}

/-- A number that is read is continued by one more digit. -/
theorem digits?_append_singleton (cs : List Char) : digits? base (cs ++ [c]) = some n ↔
    ∃ m d, digits? base cs = some m ∧ Hex.digitValue? c = some d ∧ d < base ∧ base * m + d = n := by
  simp only [digits?, List.foldlM_append, List.foldlM_cons, List.foldlM_nil, Option.bind_eq_bind, Option.pure_def,
    Option.bind_eq_some_iff, Option.guard_eq_some', Option.some.injEq]
  constructor
  · rintro ⟨m, hm, _, ⟨d, hd, -, hlt, rfl⟩, rfl⟩
    exact ⟨m, d, hm, hd, hlt, rfl⟩
  · rintro ⟨m, d, hm, hd, hlt, rfl⟩
    exact ⟨m, hm, _, ⟨d, hd, (), hlt, rfl⟩, rfl⟩

theorem digits?_lt (h : digits? base cs = some n) : n < base ^ cs.length := by
  induction cs using List.reverseRecOn generalizing n with
  | nil =>
    obtain rfl : 0 = n := by simpa [digits?] using h
    simp
  | append_singleton cs c ih =>
    obtain ⟨m, d, hm, -, hd, rfl⟩ := (digits?_append_singleton cs).1 h
    have hlt := ih hm
    rw [List.length_append, List.length_singleton, Nat.pow_succ, Nat.mul_comm]
    calc m * base + d < m * base + base := by omega
      _ = (m + 1) * base := by ring
      _ ≤ base ^ cs.length * base := Nat.mul_le_mul_right base hlt

theorem isSome_of_digits? (h : digits? base cs = some n) :
    ∀ c ∈ cs, (Hex.digitValue? c).isSome = true := by
  induction cs using List.reverseRecOn generalizing n with
  | nil => simp
  | append_singleton cs c ih =>
    obtain ⟨m, d, hm, hd, -, -⟩ := (digits?_append_singleton cs).1 h
    exact List.forall_mem_append.2 ⟨ih hm, by simp [hd]⟩

/-- The digits of a number read back. -/
theorem digits?_toDigits (base n : Nat) (hbase : 1 < base) (hle : base ≤ 16) :
    digits? base (Nat.toDigits base n) = some n := by
  induction n using Nat.strongRecOn with
  | ind n ih =>
    rw [Nat.toDigits_eq_if hbase]
    split
    · rename_i hlt
      have hvalue : Hex.digitValue? n.digitChar = some n := Hex.digitValue?_digitChar (by omega)
      exact (digits?_append_singleton []).2 ⟨0, n, rfl, hvalue, hlt, by simp⟩
    · rename_i hge
      have hmod : n % base < base := Nat.mod_lt n (by omega)
      have hdiv : n / base < n := Nat.div_lt_self (by omega) hbase
      have hvalue : Hex.digitValue? (n % base).digitChar = some (n % base) := Hex.digitValue?_digitChar (by omega)
      exact (digits?_append_singleton _).2 ⟨n / base, n % base, ih _ hdiv, hvalue, hmod, Nat.div_add_mod n base⟩

end Ipv4

/-! ## Addresses of four bytes -/

namespace Ipv4
variable {numbers : List Nat} {n a : Nat} {cs : List Char}

theorem part?_toDigits (n : Nat) : part? (Nat.toDigits 10 n) = some n := by
  by_cases hzero : n = 0
  · rw [hzero]
    decide
  · have hread := digits?_toDigits 10 n (by omega) (by omega)
    cases hcs : Nat.toDigits 10 n with
    | nil => exact absurd hcs Nat.toDigits_ne_nil
    | cons c r =>
      have hc : c ≠ '0' := by
        rintro rfl
        exact toDigits_ne_zero_cons hzero r hcs
      rw [hcs] at hread
      rw [part?]
      · exact hread
      all_goals simp [hc]

theorem isDigit_toDigits (n : Nat) : ∀ c ∈ Nat.toDigits 10 n, c.isDigit = true := fun _ hc =>
  Nat.isDigit_of_mem_toDigits (by decide) (by decide) hc

/-- The four bytes of an address, the highest first. -/
def bytes (a : Nat) : List Nat := [a / 16777216 % 256, a / 65536 % 256, a / 256 % 256, a % 256]

theorem chars_eq (a : Nat) : chars a = joinWith ['.'] ((bytes a).map (Nat.toDigits 10)) := by
  simp [chars, bytes]

theorem dot_not_mem_toDigits (n : Nat) : '.' ∉ Nat.toDigits 10 n := by
  intro hmem
  have := isDigit_toDigits n '.' hmem
  simp at this

theorem splitAtEach_chars (a : Nat) : splitAtEach (· == '.') (chars a) = (bytes a).map (Nat.toDigits 10) := by
  rw [chars_eq]
  apply splitAtEach_joinWith
  · simp
  · simp [bytes]
  · simp only [List.forall_mem_map]
    exact fun n _ c hc => beq_eq_false_iff_ne.2 (ne_of_mem_of_not_mem hc (dot_not_mem_toDigits n))

theorem parts_chars (a : Nat) : parts (chars a) = (bytes a).map (Nat.toDigits 10) := by
  rw [parts, splitAtEach_chars]
  simp [bytes, Nat.toDigits_ne_nil]

/-- The sum of some bytes with one more, and the weight of the next one. -/
def weigh (sum : Nat × Nat) (byte : Nat) : Nat × Nat := (sum.1 + byte * sum.2, sum.2 / 256)

/-- The last number is the sum that the bytes in front are added to. -/
theorem ofParts?_append_singleton (front : List Nat) (last : Nat) : ofParts? (front ++ [last]) =
    if 3 < front.length ∨ 256 ^ (4 - front.length) ≤ last ∨ ∃ b ∈ front, 256 ≤ b then none
    else some (front.foldl weigh (last, 16777216)).1 := by
  simp only [ofParts?, List.reverse_append, List.reverse_singleton, List.singleton_append, List.length_reverse,
    List.reverse_reverse, List.any_reverse, List.any_eq_true, decide_eq_true_eq, Nat.pow_eq]
  rfl

theorem ofParts?_bytes (h : a < 2 ^ 32) : ofParts? (bytes a) = some a := by
  have hsum (b c d last weight : Nat) : ([b, c, d].foldl weigh (last, weight)).1 =
      last + b * weight + c * (weight / 256) + d * (weight / 256 / 256) := rfl
  have hmod (n : Nat) : n % 256 < 256 := Nat.mod_lt n (by omega)
  have happend : bytes a = [a / 16777216 % 256, a / 65536 % 256, a / 256 % 256] ++ [a % 256] := rfl
  rw [happend, ofParts?_append_singleton, if_neg (by simp [hmod]), hsum, Option.some.injEq]
  omega

/-- **The text of an address of 32 bits is read as the address.** -/
theorem parse?_chars (h : a < 2 ^ 32) : parse? (chars a) = some a := by
  have hparts : ((bytes a).map (Nat.toDigits 10)).mapM part? = some (bytes a) := by
    rw [mapM_eq_some, List.forall₂_map_left_iff, List.forall₂_same]
    exact fun n _ => part?_toDigits n
  rw [parse?, parts_chars, hparts]
  exact ofParts?_bytes h

/-- It is meant as one. -/
theorem isMeant_chars (a : Nat) : isMeant (chars a) = true := by
  rw [isMeant, parts_chars]
  simp [bytes, part?_toDigits]

/-- Bytes and the number behind them fill the weight of the first byte at most. -/
theorem foldl_weigh_le (weight : Nat) : ∀ (bs : List Nat) (sum : Nat), (∀ b ∈ bs, b < 256) →
    (bs.foldl weigh (sum, 256 ^ bs.length * weight)).1 + 256 * weight ≤ sum + 256 ^ (bs.length + 1) * weight
  | [], _, _ => by simp
  | b :: bs, sum, h => by
    rw [List.forall_mem_cons] at h
    have hrest := foldl_weigh_le weight bs (sum + b * (256 ^ (bs.length + 1) * weight)) h.2
    have hdiv : 256 ^ (bs.length + 1) * weight / 256 = 256 ^ bs.length * weight := by
      rw [Nat.pow_succ, Nat.mul_comm _ 256, Nat.mul_assoc, Nat.mul_div_cancel_left _ (by omega)]
    -- a byte takes 255 of the 256 parts at most, and the bytes behind it the last one
    have hfirst : b * (256 ^ (bs.length + 1) * weight) ≤ 255 * (256 ^ (bs.length + 1) * weight) :=
      Nat.mul_le_mul_right _ (by omega)
    rw [List.foldl_cons, List.length_cons, weigh]
    dsimp only
    rw [hdiv, Nat.pow_succ 256 (bs.length + 1), Nat.mul_right_comm]
    omega

theorem ofParts?_lt (h : ofParts? numbers = some a) : a < 2 ^ 32 := by
  cases numbers using List.reverseRecOn with
  | nil => simp [ofParts?] at h
  | append_singleton front last =>
    rw [ofParts?_append_singleton] at h
    split at h
    · cases h
    · rename_i hbounds
      simp only [not_or, Nat.not_lt, Nat.not_le, not_exists, not_and] at hbounds
      obtain ⟨hlength, hlast, hfront⟩ := hbounds
      have hweight : 256 ^ front.length * 256 ^ (3 - front.length) = 16777216 := by
        rw [← Nat.pow_add, Nat.add_sub_cancel' hlength]
      have hfull : 256 ^ (front.length + 1) * 256 ^ (3 - front.length) = 2 ^ 32 := by
        rw [Nat.pow_succ, Nat.mul_right_comm, hweight]
        norm_num
      have hrest : 256 ^ (4 - front.length) = 256 * 256 ^ (3 - front.length) := by
        rw [← Nat.pow_succ']
        congr 1
        omega
      have hle := foldl_weigh_le (256 ^ (3 - front.length)) front last hfront
      obtain rfl := Option.some.inj h
      rw [hweight, hfull] at hle
      omega

/-- An address that is read has 32 bits. -/
theorem parse?_lt (h : parse? cs = some a) : a < 2 ^ 32 := by
  simp only [parse?, Option.bind_eq_bind, Option.bind_eq_some_iff] at h
  obtain ⟨numbers, -, hnumbers⟩ := h
  exact ofParts?_lt hnumbers

end Ipv4

/-! ## Addresses of eight pieces -/

namespace Ipv6
variable {ps done : List Nat} {gap : Option Nat} {left p start length : Nat} {cs rest : List Char}

/-- Eight pieces of 16 bits each. -/
structure Sound (ps : List Nat) : Prop where
  length_eq : ps.length = 8
  lt : ∀ p ∈ ps, p < 65536

/-! ### What is read -/

theorem byte?_le (h : byte? cs = some p) : p ≤ 255 := by
  simp only [byte?, Option.bind_eq_bind, Option.bind_eq_some_iff, Option.guard_eq_some', Option.pure_def,
    Option.some.injEq] at h
  obtain ⟨-, -, n, -, -, hn, rfl⟩ := h
  exact hn

/-- An IPv4 address at the end makes two pieces. -/
theorem tail?_sound (h : tail? cs = some ps) : ps.length = 2 ∧ ∀ p ∈ ps, p < 65536 := by
  simp only [tail?, Option.bind_eq_bind, Option.bind_eq_some_iff, mapM_eq_some] at h
  obtain ⟨bytes, hbytes, h⟩ := h
  split at h
  · simp only [List.forall₂_cons_right_iff] at hbytes
    obtain ⟨_, _, ha, ⟨_, _, hb, ⟨_, _, hc, ⟨_, _, hd, -, -⟩, -⟩, -⟩, -⟩ := hbytes
    replace ha := byte?_le ha
    replace hb := byte?_le hb
    replace hc := byte?_le hc
    replace hd := byte?_le hd
    obtain rfl := (Option.some.inj h).symm
    simp
    omega
  · cases h

/-- The state of the reader: what is read fits, and so does the gap. -/
structure Fits (done : List Nat) (gap : Option Nat) : Prop where
  length_le : done.length ≤ 8
  lt : ∀ p ∈ done, p < 65536
  gap_le : ∀ g ∈ gap, g ≤ done.length

theorem Fits.append (ps : List Nat) (h : Fits done gap) (hlength : (done ++ ps).length ≤ 8) (hps : ∀ p ∈ ps, p < 65536) :
    Fits (done ++ ps) gap where
  length_le := hlength
  lt := List.forall_mem_append.2 ⟨h.lt, hps⟩
  gap_le g hg := by
    have := h.gap_le g hg
    rw [List.length_append]
    omega

theorem pieces?_fits {found : List Nat × Option Nat} (hfits : Fits done gap) (hlength : done.length + left ≤ 8)
    (h : pieces? left done gap cs = some found) : Fits found.1 found.2 := by
  induction left, done, gap, cs using pieces?.induct with
  | case1 left done gap =>
    obtain rfl : (done, gap) = found := by simpa [pieces?] using h
    exact hfits
  | case2 done gap c r => simp [pieces?] at h
  | case3 left done gap r hgap => simp [pieces?, hgap] at h
  | case4 left done gap r hgap ih =>
    rw [pieces?, if_neg hgap] at h
    apply ih _ _ h
    · have happend := hfits.append [0] (by simp; omega) (by simp)
      exact { happend with gap_le := by simp }
    · simp
      omega
  | case5 left done gap cs hne hcolon ih =>
    rw [pieces?.eq_4 _ _ _ _ hne hcolon] at h
    generalize hdigits : (cs.take 4).takeWhile (fun c => (Hex.digitValue? c).isSome) = digits at h
    simp only [Option.bind_eq_bind, Option.bind_eq_some_iff] at h
    obtain ⟨-, -, piece, hpiece, h⟩ := h
    -- four digits at most are read at once, so a piece has 16 bits
    have hfour : digits.length ≤ 4 := by
      rw [← hdigits]
      exact (List.takeWhile_prefix _).length_le.trans (List.length_take_le 4 cs)
    have hlt : piece < 65536 := (Ipv4.digits?_lt hpiece).trans_le (Nat.pow_le_pow_right (by omega) hfour)
    have happend := hfits.append [piece] (by simp; omega) (by simpa using hlt)
    split at h
    · obtain rfl := Option.some.inj h
      exact happend
    · simp only [Option.bind_eq_some_iff, Option.guard_eq_some', Option.pure_def, Option.some.injEq] at h
      obtain ⟨-, hsix, tail, htail, rfl⟩ := h
      obtain ⟨htwo, htaillt⟩ := tail?_sound htail
      exact hfits.append tail (by simp; omega) htaillt
    · simp only [Option.bind_eq_some_iff] at h
      obtain ⟨-, -, h⟩ := h
      exact ih _ _ happend (by simp; omega) h
    · cases h

/-- The zeros of the gap make the pieces eight. -/
theorem fill?_sound (hfits : Fits done gap) (h : fill? done gap = some ps) : Sound ps := by
  cases gap with
  | none =>
    rw [fill?] at h
    split at h
    · rename_i height
      obtain rfl := Option.some.inj h
      exact ⟨height, hfits.lt⟩
    · cases h
  | some g =>
    obtain rfl := Option.some.inj h
    have hlength := hfits.length_le
    have hgap := hfits.gap_le g rfl
    constructor
    · simp
      omega
    · intro p hp
      simp only [List.mem_append, List.mem_replicate] at hp
      rcases hp with (hp | ⟨-, rfl⟩) | hp
      · exact hfits.lt p (List.mem_of_mem_take hp)
      · omega
      · exact hfits.lt p (List.mem_of_mem_drop hp)

/-- An address that is read has eight pieces of 16 bits. -/
theorem sound_of_parse? (h : parse? cs = some ps) : Sound ps := by
  unfold parse? at h
  split at h
  · obtain ⟨found, hfound, hfill⟩ := Option.bind_eq_some_iff.1 h
    exact fill?_sound (pieces?_fits ⟨by simp, by simp, by simp⟩ (by simp) hfound) hfill
  · cases h
  · obtain ⟨found, hfound, hfill⟩ := Option.bind_eq_some_iff.1 h
    exact fill?_sound (pieces?_fits ⟨by simp, by simp, by simp⟩ (by simp) hfound) hfill

/-- The characters of an address: digits, colons, and dots where it ends in an IPv4 address. -/
def IsChar (c : Char) : Prop := (Hex.digitValue? c).isSome = true ∨ c = ':' ∨ c = '.'

theorem isChar_of_byte? (h : byte? cs = some p) : ∀ c ∈ cs, IsChar c := by
  simp only [byte?, Option.bind_eq_bind, Option.bind_eq_some_iff] at h
  obtain ⟨-, -, n, hn, -⟩ := h
  exact fun c hc => .inl (Ipv4.isSome_of_digits? hn c hc)

theorem isChar_of_tail? (h : tail? cs = some ps) : ∀ c ∈ cs, IsChar c := by
  simp only [tail?, Option.bind_eq_bind, Option.bind_eq_some_iff, mapM_eq_some] at h
  obtain ⟨bytes, hbytes, -⟩ := h
  have hlabels : ∀ label ∈ splitAtEach (· == '.') cs, ∀ c ∈ label, IsChar c := by
    generalize splitAtEach (· == '.') cs = labels at hbytes
    induction hbytes with
    | nil => simp
    | cons hbyte _ ih => exact List.forall_mem_cons.2 ⟨isChar_of_byte? hbyte, ih⟩
  rw [← joinWith_splitAtEach '.' cs]
  exact forall_mem_joinWith (.inr (.inr rfl)) hlabels

theorem isChar_of_pieces? {found : List Nat × Option Nat} (h : pieces? left done gap cs = some found) :
    ∀ c ∈ cs, IsChar c := by
  induction left, done, gap, cs using pieces?.induct with
  | case1 left done gap => simp
  | case2 done gap c r => simp [pieces?] at h
  | case3 left done gap r hgap => simp [pieces?, hgap] at h
  | case4 left done gap r hgap ih =>
    rw [pieces?, if_neg hgap] at h
    exact List.forall_mem_cons.2 ⟨.inr (.inl rfl), ih h⟩
  | case5 left done gap cs hne hcolon ih =>
    rw [pieces?.eq_4 _ _ _ _ hne hcolon] at h
    generalize hdigits : (cs.take 4).takeWhile (fun c => (Hex.digitValue? c).isSome) = digits at h
    simp only [Option.bind_eq_bind, Option.bind_eq_some_iff] at h
    obtain ⟨-, -, piece, hpiece, h⟩ := h
    have hprefix : digits <+: cs := hdigits ▸ (List.takeWhile_prefix _).trans (List.take_prefix 4 cs)
    have happend : digits ++ cs.drop digits.length = cs := List.prefix_iff_eq_append.1 hprefix
    have hchars : ∀ c ∈ digits, IsChar c := fun c hc => .inl (Ipv4.isSome_of_digits? hpiece c hc)
    split at h
    · rename_i hdrop
      rw [hdrop, List.append_nil] at happend
      rwa [happend] at hchars
    · simp only [Option.bind_eq_some_iff] at h
      obtain ⟨-, -, tail, htail, -⟩ := h
      exact isChar_of_tail? htail
    · rename_i r hdrop
      simp only [Option.bind_eq_some_iff] at h
      obtain ⟨-, -, h⟩ := h
      rw [← happend, hdrop]
      exact List.forall_mem_append.2 ⟨hchars, List.forall_mem_cons.2 ⟨.inr (.inl rfl), ih _ r h⟩⟩
    · cases h

theorem isChar_of_parse? (h : parse? cs = some ps) : ∀ c ∈ cs, IsChar c := by
  unfold parse? at h
  split at h
  · obtain ⟨found, hfound, -⟩ := Option.bind_eq_some_iff.1 h
    exact List.forall_mem_cons.2 ⟨.inr (.inl rfl), List.forall_mem_cons.2 ⟨.inr (.inl rfl), isChar_of_pieces? hfound⟩⟩
  · cases h
  · obtain ⟨found, hfound, -⟩ := Option.bind_eq_some_iff.1 h
    exact isChar_of_pieces? hfound

/-! ### What is written -/

theorem digits?_ofNat (p : Nat) : Ipv4.digits? 16 (Hex.ofNat p) = some p :=
  Ipv4.digits?_toDigits 16 p (by omega) (by omega)

theorem isSome_digitValue?_ofNat (p : Nat) : ∀ c ∈ Hex.ofNat p, (Hex.digitValue? c).isSome = true :=
  Ipv4.isSome_of_digits? (digits?_ofNat p)

theorem ofNat_ne_nil (p : Nat) : Hex.ofNat p ≠ [] := Nat.toDigits_ne_nil

theorem length_ofNat_le (hp : p < 65536) : (Hex.ofNat p).length ≤ 4 :=
  (Nat.length_toDigits_le_iff (by omega) (by omega)).2 hp

/-- A piece is read up to the character behind it that is no digit. -/
theorem takeWhile_ofNat_append (rest : List Char) (hp : p < 65536)
    (hrest : ∀ c ∈ rest.head?, (Hex.digitValue? c).isSome = false) :
    ((Hex.ofNat p ++ rest).take 4).takeWhile (fun c => (Hex.digitValue? c).isSome) = Hex.ofNat p := by
  have hlength := length_ofNat_le hp
  have hstop : (rest.take (4 - (Hex.ofNat p).length)).takeWhile (fun c => (Hex.digitValue? c).isSome) = [] := by
    cases rest with
    | nil => simp
    | cons c rest => cases 4 - (Hex.ofNat p).length <;> simp [hrest c rfl]
  rw [List.take_append, List.take_of_length_le hlength, List.takeWhile_append_of_pos (isSome_digitValue?_ofNat p),
    hstop, List.append_nil]

theorem ofNat_append_ne_colon (p : Nat) (rest r : List Char) : Hex.ofNat p ++ rest ≠ ':' :: r := by
  intro h
  cases hp : Hex.ofNat p with
  | nil => exact ofNat_ne_nil p hp
  | cons c cs =>
    have hdigit := isSome_digitValue?_ofNat p c (by simp [hp])
    rw [hp] at h
    obtain rfl := List.head_eq_of_cons_eq h
    revert hdigit
    decide

/-- A last piece is read. -/
theorem pieces?_ofNat (hp : p < 65536) : pieces? (left + 1) done gap (Hex.ofNat p) = some (done ++ [p], gap) := by
  have htake := takeWhile_ofNat_append [] hp (by simp)
  rw [List.append_nil] at htake
  rw [pieces?.eq_4 _ _ _ _ (ofNat_ne_nil p) (by simpa using ofNat_append_ne_colon p []), htake, digits?_ofNat]
  simp [ofNat_ne_nil]

/-- A piece that more follows is read. -/
theorem pieces?_ofNat_append (hp : p < 65536) (hrest : rest ≠ []) :
    pieces? (left + 1) done gap (Hex.ofNat p ++ ':' :: rest) = pieces? left (done ++ [p]) gap rest := by
  have htake := takeWhile_ofNat_append (':' :: rest) hp (by simp; decide)
  rw [pieces?.eq_4 _ _ _ _ (by simp [ofNat_ne_nil]) (ofNat_append_ne_colon p (':' :: rest)), htake, digits?_ofNat]
  simp [ofNat_ne_nil, hrest]

theorem joined_cons (p : Nat) (hps : ps ≠ []) : joined (p :: ps) = Hex.ofNat p ++ ':' :: joined ps := by
  cases ps with
  | nil => exact absurd rfl hps
  | cons q ps => simp [joined, joinWith]

theorem joined_singleton (p : Nat) : joined [p] = Hex.ofNat p := rfl

theorem joined_ne_nil (hps : ps ≠ []) : joined ps ≠ [] := by
  cases ps with
  | nil => exact absurd rfl hps
  | cons p ps =>
    by_cases hrest : ps = []
    · simpa [hrest, joined_singleton] using ofNat_ne_nil p
    · simp [joined_cons p hrest, ofNat_ne_nil]

/-- Pieces with colons between them are read. -/
theorem pieces?_joined : ∀ {ps : List Nat} (left : Nat) (done : List Nat) (gap : Option Nat), (∀ p ∈ ps, p < 65536) →
    ps.length ≤ left → pieces? left done gap (joined ps) = some (done ++ ps, gap)
  | [], left, done, gap, _, _ => by simp [joined, joinWith, pieces?]
  | p :: ps, 0, _, _, _, hlength => by simp at hlength
  | p :: ps, left + 1, done, gap, hlt, hlength => by
    rw [List.forall_mem_cons] at hlt
    by_cases hrest : ps = []
    · rw [hrest, joined_singleton, pieces?_ofNat hlt.1]
    · rw [joined_cons p hrest, pieces?_ofNat_append hlt.1 (joined_ne_nil hrest),
        pieces?_joined left _ gap hlt.2 (by simpa using hlength)]
      simp

/-- Pieces in front of the gap are read, and the gap with them. -/
theorem pieces?_joined_gap (left : Nat) (rest : List Char) : ∀ {ps : List Nat} (done : List Nat), ps ≠ [] →
    (∀ p ∈ ps, p < 65536) → pieces? (left + 1 + ps.length) done none (joined ps ++ ':' :: ':' :: rest) =
      pieces? left (done ++ ps ++ [0]) (some ((done ++ ps).length + 1)) rest
  | [], _, hne, _ => absurd rfl hne
  | p :: ps, done, _, hlt => by
    rw [List.forall_mem_cons] at hlt
    by_cases hps : ps = []
    · rw [hps, joined_singleton, List.length_singleton, pieces?_ofNat_append hlt.1 (by simp), pieces?]
      simp
    · rw [joined_cons p hps, List.append_assoc, List.cons_append, List.length_cons, ← Nat.add_assoc,
        pieces?_ofNat_append hlt.1 (by simp), pieces?_joined_gap left rest _ hps hlt.2]
      simp

/-! ### The gap -/

/-- There are zeros in a place. -/
def ZerosAt (ps : List Nat) (start length : Nat) : Prop := ∀ i, start ≤ i → i < start + length → ps[i]? = some 0

/-- A list is what stands before a run of zeros, the zeros, and what stands after them. -/
theorem ZerosAt.eq_append (h : ZerosAt ps start length) (hle : start + length ≤ ps.length) :
    ps.take start ++ (List.replicate length 0 ++ ps.drop (start + length)) = ps := by
  have hzeros : (ps.drop start).take length = List.replicate length 0 := by
    apply List.ext_getElem
    · simp
      omega
    · intro i hi _
      have hzero := h (start + i) (by omega) (by simp at hi; omega)
      rw [List.getElem_replicate, List.getElem_take, List.getElem_drop]
      exact (List.getElem_eq_iff _).2 hzero
  rw [← hzeros, ← List.drop_drop, List.take_append_drop, List.take_append_drop]

theorem ZerosAt.le_length (h : ZerosAt ps start length) (hpos : 0 < length) : start + length ≤ ps.length := by
  obtain ⟨hi, -⟩ := List.getElem?_eq_some_iff.1 (h (start + length - 1) (by omega) (by omega))
  omega

/-- What is found are zeros. The run under way ends where the search stands, `before.length`, and both it and the best one
so far are zeros of the whole list. -/
theorem zerosAt_longestZeros (before : List Nat) {run : Nat} {best : Nat × Nat} (hle : run ≤ before.length)
    (hrun : ZerosAt (before ++ ps) (before.length - run) run) (hbest : ZerosAt (before ++ ps) best.1 best.2) :
    ZerosAt (before ++ ps) (longestZeros before.length run best ps).1 (longestZeros before.length run best ps).2 := by
  induction ps generalizing before run best with
  | nil => exact hbest
  | cons p ps ih =>
    have hmove : before ++ p :: ps = (before ++ [p]) ++ ps := by simp
    have hlength : (before ++ [p]).length = before.length + 1 := by simp
    rw [longestZeros]
    rw [hmove] at hrun hbest ⊢
    split
    · rename_i hp
      have hlonger : ZerosAt ((before ++ [p]) ++ ps) (before.length + 1 - (run + 1)) (run + 1) := by
        intro i hstart hend
        by_cases hi : i = before.length
        · simp [hi, hp]
        · exact hrun i (by omega) (by omega)
      rw [← hlength] at hlonger ⊢
      dsimp only
      apply ih _ (by omega) hlonger
      split
      · exact hlonger
      · exact hbest
    · rw [← hlength]
      exact ih _ (by omega) (fun i _ _ => by omega) hbest

/-- What stands between the brackets: all pieces, or those before and after a run of zeros. -/
def body (ps : List Nat) : List Char :=
  let (start, length) := longestZeros 0 0 (0, 0) ps
  if length < 2 then joined ps else joined (ps.take start) ++ ':' :: ':' :: joined (ps.drop (start + length))

theorem chars_eq (ps : List Nat) : chars ps = '[' :: (body ps ++ [']']) := rfl

/-- The characters between the brackets are digits and colons. -/
theorem forall_mem_body (ps : List Nat) : ∀ c ∈ body ps, (Hex.digitValue? c).isSome = true ∨ c = ':' := by
  have hjoined (qs : List Nat) : ∀ c ∈ joined qs, (Hex.digitValue? c).isSome = true ∨ c = ':' := by
    refine forall_mem_joinWith (P := fun c => (Hex.digitValue? c).isSome = true ∨ c = ':') (.inr rfl) ?_
    simp only [List.forall_mem_map]
    exact fun p _ c hc => .inl (isSome_digitValue?_ofNat p c hc)
  rw [body]
  dsimp only
  split
  · exact hjoined ps
  · have hback := hjoined (ps.drop ((longestZeros 0 0 (0, 0) ps).1 + (longestZeros 0 0 (0, 0) ps).2))
    exact List.forall_mem_append.2 ⟨hjoined _, List.forall_mem_cons.2 ⟨.inr rfl, List.forall_mem_cons.2 ⟨.inr rfl, hback⟩⟩⟩

/-- The reader in front of pieces that start with a digit. -/
theorem parse?_joined_append (hps : ps ≠ []) (rest : List Char) : parse? (joined ps ++ rest) =
    (pieces? 8 [] none (joined ps ++ rest)).bind fun found => fill? found.1 found.2 := by
  have hcolon (r : List Char) : joined ps ++ rest ≠ ':' :: r := by
    cases ps with
    | nil => exact absurd rfl hps
    | cons p ps =>
      by_cases hrest : ps = []
      · rw [hrest, joined_singleton]
        exact ofNat_append_ne_colon p rest r
      · rw [joined_cons p hrest, List.append_assoc]
        exact ofNat_append_ne_colon p _ r
  rw [parse?.eq_3 _ (fun r => hcolon _) (fun r => hcolon r)]
  rfl

/-- Pieces before and after a gap are read as these, with zeros between them. -/
theorem parse?_gap {front back : List Nat} (hfront : ∀ p ∈ front, p < 65536) (hback : ∀ p ∈ back, p < 65536)
    (hlength : front.length + back.length < 8) : parse? (joined front ++ ':' :: ':' :: joined back) =
      some (front ++ (List.replicate (8 - front.length - back.length) 0 ++ back)) := by
  -- the reader counts the gap as one zero, and the rest of the zeros are put behind it
  have hfill : fill? (front ++ [0] ++ back) (some (front.length + 1)) =
      some (front ++ (List.replicate (8 - front.length - back.length) 0 ++ back)) := by
    have hzeros : 8 - front.length - back.length = 8 - (front ++ [0] ++ back).length + 1 := by
      simp
      omega
    have hlast : front.length + 1 = (front ++ [0]).length := by simp
    rw [fill?, hlast, List.take_left, List.drop_left, hzeros, List.replicate_succ]
    simp
  by_cases hnil : front = []
  · subst hnil
    have hpieces := pieces?_joined 7 [0] (some 1) hback (by simp at hlength; omega)
    have hstart : joined [] ++ ':' :: ':' :: joined back = ':' :: ':' :: joined back := rfl
    rw [hstart, parse?, hpieces]
    exact hfill
  · rw [parse?_joined_append hnil]
    obtain ⟨left, hleft⟩ : ∃ left, 8 = left + 1 + front.length := ⟨7 - front.length, by omega⟩
    have hpieces := pieces?_joined_gap left (joined back) [] hnil hfront
    rw [← hleft, pieces?_joined left _ _ hback (by omega)] at hpieces
    rw [hpieces]
    exact hfill

/-- **The text of an address of eight pieces is read as the address.** -/
theorem parse?_body (h : Sound ps) : parse? (body ps) = some ps := by
  rw [body]
  have hzeros : ZerosAt ps (longestZeros 0 0 (0, 0) ps).1 (longestZeros 0 0 (0, 0) ps).2 :=
    zerosAt_longestZeros [] (Nat.zero_le _) (fun i _ _ => by omega) (fun i _ _ => by omega)
  generalize longestZeros 0 0 (0, 0) ps = found at hzeros ⊢
  obtain ⟨start, length⟩ := found
  dsimp only at hzeros ⊢
  have height := h.length_eq
  split
  · have hall := parse?_joined_append (List.ne_nil_of_length_pos (by omega : 0 < ps.length)) []
    rw [List.append_nil, pieces?_joined 8 [] none h.lt (by omega)] at hall
    rw [hall]
    simp [fill?, height]
  · rename_i hlength
    have hle := hzeros.le_length (by omega)
    rw [parse?_gap]
    · have hfront : (ps.take start).length = start := by simp; omega
      have hcount : 8 - (ps.take start).length - (ps.drop (start + length)).length = length := by
        rw [hfront, List.length_drop]
        omega
      rw [hcount, hzeros.eq_append hle]
    · exact fun p hp => h.lt p (List.mem_of_mem_take hp)
    · exact fun p hp => h.lt p (List.mem_of_mem_drop hp)
    · simp
      omega

end Ipv6
end FederatedLedger
