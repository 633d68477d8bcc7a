import FederatedLedger.Decimal.Shortest
import Mathlib.Algebra.Order.Field.Power
import Mathlib.Data.Rat.Cast.Order
import Mathlib.Order.Monotone.Basic
import Mathlib.Tactic.FieldSimp
import Mathlib.Tactic.Linarith
import Mathlib.Tactic.Positivity
import Mathlib.Tactic.Ring

/-!
# The shortest decimal tells doubles apart

`Decimal.Interval.Covers` is the interval of a double, in rational numbers. The search for the shortest decimal ends
on a grid that is finer than the interval (`ten_zpow_le`), so what it finds is covered by it (`shortest_covers`). The
intervals of all magnitudes follow one another without a gap (`high_eq_low_succ`), and the end that two of them share
belongs to the one with an even significand, so a number is covered by one interval only (`covers_inj`).
-/

namespace FederatedLedger

namespace Decimal

/-- The number that a decimal stands for. -/
def amount (d : Decimal) : ℚ := d.digits * 10 ^ d.exponent

/-- A power of either sign as a fraction of natural numbers. -/
theorem fraction_eq {base : Nat} (hb : 0 < base) (a : Nat) (p : Int) {f : Nat × Nat}
    (hf : f = if 0 ≤ p then (a * Nat.pow base p.toNat, 1) else (a, Nat.pow base (-p).toNat)) :
    (f.1 : ℚ) = a * base ^ p * f.2 ∧ 0 < f.2 := by
  subst hf
  split
  · rename_i h
    obtain ⟨n, rfl⟩ := Int.eq_ofNat_of_zero_le h
    simp
  · rename_i h
    obtain ⟨n, hn⟩ := Int.eq_ofNat_of_zero_le (show 0 ≤ -p by omega)
    obtain rfl : p = -(n : Int) := by omega
    have : (base : ℚ) ^ n ≠ 0 := by positivity
    simp [zpow_neg, this, hb]

theorem scaleTen_eq (a : Nat) (p : Int) :
    ((scaleTen a p).1 : ℚ) = a * 10 ^ p * (scaleTen a p).2 ∧ 0 < (scaleTen a p).2 := by
  have := @fraction_eq 10 (by decide) a p _ rfl
  rwa [Nat.cast_ofNat] at this

theorem scale_eq (m : Nat) (e : Int) :
    ((Binary64.scale m e).1 : ℚ) = m * 2 ^ e * (Binary64.scale m e).2 ∧ 0 < (Binary64.scale m e).2 := by
  have := @fraction_eq 2 (by decide) m e _ rfl
  rwa [Nat.cast_ofNat] at this

/-! ## What an interval covers -/

namespace Interval

/-- What the multiples of the interval are multiples of. -/
def grain (i : Interval) : ℚ := i.unit.1 / i.unit.2

/-- The number lies in the interval. -/
structure Covers (i : Interval) (x : ℚ) : Prop where
  low : i.low * i.grain ≤ x
  high : x ≤ i.high * i.grain
  inside : i.closed = false → i.low * i.grain < x ∧ x < i.high * i.grain

theorem grain_interval (m : Nat) (e : Int) : (interval m e).grain = 2 ^ (e - 2) := by
  obtain ⟨h, hpos⟩ := scale_eq 1 (e - 2)
  have : ((Binary64.scale 1 (e - 2)).2 : ℚ) ≠ 0 := by exact_mod_cast hpos.ne'
  rw [grain, interval, h, Nat.cast_one, one_mul, mul_div_assoc, div_self this, mul_one]

variable {i : Interval}

/-- The comparisons of `contains` are those in rational numbers, multiplied by the denominators. -/
theorem contains_iff (hu : 0 < i.unit.2) (g : Nat) (p : Int) :
    i.contains g p = true ↔ i.Covers (g * 10 ^ p) := by
  obtain ⟨hten, hb⟩ := scaleTen_eq g p
  have hscale : (0 : ℚ) < (scaleTen g p).2 * i.unit.2 := by positivity
  have hx : (((scaleTen g p).1 * i.unit.2 : ℕ) : ℚ) = g * 10 ^ p * ((scaleTen g p).2 * i.unit.2) := by
    rw [Nat.cast_mul, hten]; ring
  have hend (k : Nat) : ((k * i.unit.1 * (scaleTen g p).2 : ℕ) : ℚ) =
      k * i.grain * ((scaleTen g p).2 * i.unit.2) := by
    have : (i.unit.2 : ℚ) ≠ 0 := by positivity
    rw [grain]; push_cast; field_simp
  have hle (a b : ℚ) := @mul_le_mul_iff_left₀ ℚ _ _ _ _ a b _ _ hscale
  have hlt (a b : ℚ) := @mul_lt_mul_iff_left₀ ℚ _ _ _ _ a b _ _ hscale
  unfold contains
  dsimp only
  split
  · rename_i hc
    simp only [Bool.and_eq_true, decide_eq_true_eq, ← Nat.cast_le (α := ℚ), hx, hend, hle]
    exact ⟨fun ⟨h, h'⟩ => ⟨h, h', by simp [hc]⟩, fun h => ⟨h.low, h.high⟩⟩
  · rename_i hc
    simp only [Bool.and_eq_true, decide_eq_true_eq, ← Nat.cast_lt (α := ℚ), hx, hend, hlt]
    exact ⟨fun ⟨h, h'⟩ => ⟨h.le, h'.le, fun _ => ⟨h, h'⟩⟩, fun h => h.inside (by simpa using hc)⟩

/-! ## The search -/

/-- The value lies between two neighbours on the grid. -/
theorem below_spec (hu : 0 < i.unit.2) (p : Int) :
    (i.below p : ℚ) * 10 ^ p ≤ i.value * i.grain ∧ i.value * i.grain < ((i.below p : ℚ) + 1) * 10 ^ p := by
  obtain ⟨hten, hb⟩ := scaleTen_eq 1 p
  have hscale : (0 : ℚ) < i.unit.2 * (scaleTen 1 p).2 := by positivity
  have hpos : 0 < i.unit.2 * (scaleTen 1 p).1 := by
    have : (0 : ℚ) < (scaleTen 1 p).1 := by rw [hten]; positivity
    exact Nat.mul_pos hu (by exact_mod_cast this)
  have hvalue : ((i.value * i.unit.1 * (scaleTen 1 p).2 : ℕ) : ℚ) =
      i.value * i.grain * (i.unit.2 * (scaleTen 1 p).2) := by
    have : (i.unit.2 : ℚ) ≠ 0 := by positivity
    rw [grain]; push_cast; field_simp
  have hstep : ((i.unit.2 * (scaleTen 1 p).1 : ℕ) : ℚ) = 10 ^ p * (i.unit.2 * (scaleTen 1 p).2) := by
    rw [Nat.cast_mul, hten]; push_cast; ring
  have hle := Nat.div_mul_le_self (i.value * i.unit.1 * (scaleTen 1 p).2) (i.unit.2 * (scaleTen 1 p).1)
  have hlt := Nat.lt_mul_div_succ (i.value * i.unit.1 * (scaleTen 1 p).2) hpos
  rw [← Nat.cast_le (α := ℚ), Nat.cast_mul, hstep, hvalue] at hle
  rw [← Nat.cast_lt (α := ℚ), hvalue, Nat.cast_mul, hstep, Nat.cast_add, Nat.cast_one] at hlt
  constructor
  · refine le_of_mul_le_mul_right ?_ hscale
    rw [mul_assoc]; exact hle
  · refine lt_of_mul_lt_mul_right ?_ hscale.le
    calc _ < _ := hlt
      _ = _ := by rw [below]; ring

/-- A grid as fine as the grain has a point in the interval. -/
theorem covers_below {m : Nat} (hm : 0 < m) {e p : Int} (hp : (10 : ℚ) ^ p ≤ 2 ^ (e - 2)) :
    (interval m e).Covers ((interval m e).below p * 10 ^ p) := by
  obtain ⟨hle, hlt⟩ := (interval m e).below_spec (scale_eq 1 (e - 2)).2 p
  have hgrain : (interval m e).grain = 2 ^ (e - 2) := grain_interval m e
  have hpos : (0 : ℚ) < 2 ^ (e - 2) := by positivity
  have hlow : ((interval m e).low : ℚ) + 1 ≤ (interval m e).value := by
    have : (interval m e).low + 1 ≤ (interval m e).value := by
      simp only [interval]; split <;> omega
    exact_mod_cast this
  have hhigh : ((interval m e).value : ℚ) < (interval m e).high := by
    have : (interval m e).value < (interval m e).high := by simp only [interval]; omega
    exact_mod_cast this
  have hlow' := mul_le_mul_of_nonneg_right hlow hpos.le
  have hhigh' := mul_lt_mul_of_pos_right hhigh hpos
  rw [hgrain] at hle hlt
  have hin : ((interval m e).low : ℚ) * (interval m e).grain < (interval m e).below p * 10 ^ p ∧
      ((interval m e).below p : ℚ) * 10 ^ p < (interval m e).high * (interval m e).grain := by
    rw [hgrain]
    constructor <;> linarith
  exact ⟨hin.1.le, hin.2.le, fun _ => hin⟩

theorem contains_of_pick? {p : Int} {g : Nat} (h : i.pick? p = some g) : i.contains g p = true := by
  unfold pick? at h
  dsimp only at h
  split at h
  · split at h <;> cases h <;> assumption
  · cases h; assumption
  · cases h; assumption
  · cases h

theorem pick?_ne_none {p : Int} (h : i.contains (i.below p) p = true) : i.pick? p ≠ none := by
  unfold pick?
  dsimp only
  rw [h]
  split <;> simp_all

/-- The search finds a point of the interval, if one of its grids has one next to the value. -/
theorem search_contains : ∀ {n : Nat} {p : Int} {k : Nat}, k < n → i.pick? (p - k) ≠ none →
    i.contains (i.search n p).digits (i.search n p).exponent = true
  | 0, _, _, hk, _ => absurd hk (Nat.not_lt_zero _)
  | n + 1, p, k, hk, hpick => by
    unfold search
    split
    · rename_i g hg
      exact contains_of_pick? hg
    · rename_i hnone
      cases k with
      | zero => exact absurd hnone (by simpa using hpick)
      | succ k =>
        refine search_contains (k := k) (Nat.lt_of_succ_lt_succ hk) ?_
        rwa [show p - 1 - (k : Int) = p - (k + 1 : Nat) by push_cast; ring]

end Interval

/-- Trailing zeros do not change the number. -/
theorem amount_stripZeros : ∀ (n : Nat) (d : Decimal), (stripZeros n d).amount = d.amount
  | 0, _ => rfl
  | n + 1, d => by
    unfold stripZeros
    split
    · rename_i h
      rw [amount_stripZeros n, amount, amount]
      have hd : (d.digits : ℚ) = (d.digits / 10 : Nat) * 10 := by
        exact_mod_cast (Nat.div_mul_cancel (Nat.dvd_of_mod_eq_zero h)).symm
      rw [hd, zpow_add_one₀ (by norm_num)]; ring
    · rfl

/-- Powers of ten and two are compared by the `k`-th and the `j`-th. -/
theorem ten_zpow_le_two {q r k j : Int} (hk : 0 < k) (h : ((10 : ℚ) ^ k) ^ q ≤ ((2 : ℚ) ^ j) ^ q)
    (hr : j * q ≤ k * r) : (10 : ℚ) ^ q ≤ 2 ^ r := by
  rw [← zpow_le_zpow_iff_left₀ (by positivity) (by positivity) hk]
  calc ((10 : ℚ) ^ q) ^ k = (10 ^ k) ^ q := by rw [← zpow_mul, ← zpow_mul, mul_comm]
    _ ≤ (2 ^ j) ^ q := h
    _ = 2 ^ (j * q) := (zpow_mul _ _ _).symm
    _ ≤ 2 ^ (k * r) := zpow_le_zpow_right₀ (by norm_num) hr
    _ = (2 ^ r) ^ k := by rw [← zpow_mul, mul_comm]

/-- The last grid that is tried is as fine as the grain: `10 ^ 59` is a little less than `2 ^ 196`, and `2 ^ 93` a
little less than `10 ^ 28`. -/
theorem ten_zpow_le {m : Nat} {e : Int} (hm : m < 2 ^ 53) (he : -1074 ≤ e) (he' : e ≤ 971) :
    (10 : ℚ) ^ (((m.log2 : Int) + 1 + e) * 30103 / 100000 + 1 - 19) ≤ 2 ^ (e - 2) := by
  have hlog : m.log2 < 53 := by
    rcases Nat.eq_zero_or_pos m with rfl | hpos
    · decide
    · exact (Nat.log2_lt hpos.ne').2 hm
  generalize hq : ((m.log2 : Int) + 1 + e) * 30103 / 100000 + 1 - 19 = q
  have hq' : 100000 * q ≤ 30103 * e - 204541 := by omega
  rcases Int.le_total 0 q with h | h
  · refine ten_zpow_le_two (k := 59) (j := 196) (by decide) ?_ (by omega)
    exact zpow_le_zpow_left₀ h (by positivity) (by norm_num)
  · refine ten_zpow_le_two (k := 28) (j := 93) (by decide) ?_ (by omega)
    obtain ⟨n, hn⟩ := Int.eq_ofNat_of_zero_le (show 0 ≤ -q by omega)
    rw [show q = -(n : Int) by omega, zpow_neg, zpow_neg, zpow_natCast, zpow_natCast]
    exact inv_anti₀ (by positivity) (pow_le_pow_left₀ (by positivity) (by norm_num) n)

/-- **The shortest decimal reads back**: it lies in the interval of its double. -/
theorem shortest_covers {m : Nat} {e : Int} (hpos : 0 < m) (hm : m < 2 ^ 53) (he : -1074 ≤ e) (he' : e ≤ 971) :
    (interval m e).Covers (shortest m e).amount := by
  have hu : 0 < (interval m e).unit.2 := (scale_eq 1 (e - 2)).2
  have hlast := Interval.covers_below hpos (ten_zpow_le hm he he')
  rw [← Interval.contains_iff hu] at hlast
  rw [shortest, amount_stripZeros]
  exact (Interval.contains_iff hu _ _).1 (Interval.search_contains (by decide : 19 < 20) (Interval.pick?_ne_none hlast))

end Decimal

namespace Binary64

/-! ## The intervals of all magnitudes -/

/-- The significand and the exponent of a magnitude. -/
def parts (magnitude : Nat) : Nat × Int :=
  if magnitude / leadingBit = 0 then (magnitude % leadingBit, -1074)
  else (leadingBit + magnitude % leadingBit, ((magnitude / leadingBit : Nat) : Int) - 1075)

/-- What rounds to a magnitude. -/
def around (magnitude : Nat) : Decimal.Interval := Decimal.interval (parts magnitude).1 (parts magnitude).2

theorem decode?_of_finite {x : Binary64} (h : x.isFinite = true) : x.decode? = some (parts x.magnitude) := by
  have hlt : x.magnitude < infinityBits := of_decide_eq_true h
  have hfield : x.magnitude / leadingBit ≠ 2047 := by
    simp only [infinityBits, leadingBit] at hlt ⊢; omega
  simp only [decode?, hfield, if_false, parts]
  split <;> rfl

theorem parts_of_lt {M : Nat} (h : M < leadingBit) : parts M = (M, -1074) := by
  rw [parts, if_pos (Nat.div_eq_of_lt h), Nat.mod_eq_of_lt h]

theorem parts_of_le {M : Nat} (h : leadingBit ≤ M) :
    parts M = (leadingBit + M % leadingBit, ((M / leadingBit : Nat) : Int) - 1075) := by
  rw [parts, if_neg (Nat.div_pos h (by decide)).ne']

theorem parts_bounds {M : Nat} (h : M < infinityBits) :
    (parts M).1 < 2 ^ 53 ∧ -1074 ≤ (parts M).2 ∧ (parts M).2 ≤ 971 ∧ ((parts M).1 = 0 ↔ M = 0) ∧
      (parts M).1 % 2 = M % 2 := by
  rcases Nat.lt_or_ge M leadingBit with hM | hM
  · rw [parts_of_lt hM]
    simp only [leadingBit] at hM
    dsimp only; omega
  · rw [parts_of_le hM]
    simp only [infinityBits, leadingBit] at h hM ⊢
    omega

/-- The next magnitude has the next significand, or the first one with the next exponent. -/
theorem parts_succ (M : Nat) :
    (parts (M + 1)).1 = (parts M).1 + 1 ∧ (parts (M + 1)).2 = (parts M).2 ∧
      ¬((parts M).1 + 1 = leadingBit ∧ -1074 < (parts M).2) ∨
    (parts (M + 1)).1 = leadingBit ∧ (parts (M + 1)).2 = (parts M).2 + 1 ∧ (parts M).1 + 1 = 2 * leadingBit ∧
      -1074 ≤ (parts M).2 := by
  rcases Nat.lt_or_ge M leadingBit with hM | hM
  · rw [parts_of_lt hM]
    rcases Nat.lt_or_ge (M + 1) leadingBit with hM' | hM'
    · rw [parts_of_lt hM']
      dsimp only; omega
    · rw [parts_of_le hM']
      simp only [leadingBit] at hM hM' ⊢
      omega
  · rw [parts_of_le hM, parts_of_le (Nat.le_succ_of_le hM)]
    simp only [leadingBit] at hM ⊢
    omega

/-- An interval begins where the one before it ends. -/
theorem high_eq_low_succ (M : Nat) :
    ((around M).high : ℚ) * (around M).grain = (around (M + 1)).low * (around (M + 1)).grain := by
  simp only [around, Decimal.Interval.grain_interval]
  rcases parts_succ M with ⟨hm, he, hinner⟩ | ⟨hm, he, hlast, hleast⟩
  · rw [hm, he]
    have : (Decimal.interval ((parts M).1 + 1) (parts M).2).low = (Decimal.interval (parts M).1 (parts M).2).high := by
      simp only [Decimal.interval, if_neg hinner]; omega
    rw [this]
  · -- into the next binade the grain doubles
    rw [hm, he, show (parts M).2 + 1 - 2 = (parts M).2 - 2 + 1 by ring, zpow_add_one₀ (by norm_num)]
    have : (Decimal.interval leadingBit ((parts M).2 + 1)).low * 2 =
        (Decimal.interval (parts M).1 (parts M).2).high := by
      simp only [Decimal.interval, true_and, if_pos (show -1074 < (parts M).2 + 1 by omega)]
      simp only [leadingBit] at hlast ⊢
      omega
    rw [← this]; push_cast; ring

theorem low_lt_high (M : Nat) : ((around M).low : ℚ) * (around M).grain < (around M).high * (around M).grain := by
  have hlt : (around M).low < (around M).high := by
    simp only [around, Decimal.interval]; split <;> omega
  refine mul_lt_mul_of_pos_right (by exact_mod_cast hlt) ?_
  rw [around, Decimal.Interval.grain_interval]; positivity

theorem low_strictMono : StrictMono fun M => ((around M).low : ℚ) * (around M).grain :=
  strictMono_nat_of_lt_succ fun M => (low_lt_high M).trans_eq (high_eq_low_succ M)

/-- A number rounds to one magnitude only. -/
theorem covers_inj {M N : Nat} {x : ℚ} (hM : M < infinityBits) (hN : N < infinityBits) (hx : (around M).Covers x)
    (hx' : (around N).Covers x) : M = N := by
  wlog hlt : M < N generalizing M N
  · rcases Nat.lt_trichotomy M N with h | h | h
    · exact absurd h hlt
    · exact h
    · exact (this hN hM hx' hx h).symm
  -- the two intervals could share one end only, and only if they are neighbours that are both closed
  exfalso
  have hend := hx.high
  rw [high_eq_low_succ] at hend
  have hnext : M + 1 = N :=
    le_antisymm hlt (low_strictMono.le_iff_le.1 (hx'.low.trans hend))
  subst hnext
  have hM' : (around M).closed = true := by
    by_contra hopen
    have := (hx.inside (by simpa using hopen)).2
    rw [high_eq_low_succ] at this
    exact absurd hx'.low (not_le.2 this)
  have hN' : (around (M + 1)).closed = true := by
    by_contra hopen
    exact absurd hend (not_le.2 (hx'.inside (by simpa using hopen)).1)
  simp only [around, Decimal.interval, decide_eq_true_eq] at hM' hN'
  have := (parts_bounds hM).2.2.2.2
  have := (parts_bounds hN).2.2.2.2
  omega

/-- The shortest decimal of a magnitude. -/
def decimal (magnitude : Nat) : Decimal := Decimal.shortest (parts magnitude).1 (parts magnitude).2

theorem covers_decimal {M : Nat} (h : M < infinityBits) (hpos : M ≠ 0) : (around M).Covers (decimal M).amount := by
  obtain ⟨hm, he, he', hzero, -⟩ := parts_bounds h
  exact Decimal.shortest_covers (Nat.pos_of_ne_zero fun h => hpos (hzero.1 h)) hm he he'

theorem digits_decimal_ne_zero {M : Nat} (h : M < infinityBits) (hpos : M ≠ 0) : (decimal M).digits ≠ 0 := by
  intro hzero
  have hlow := (covers_decimal h hpos).low
  rw [Decimal.amount, hzero, Nat.cast_zero, zero_mul, around, Decimal.Interval.grain_interval] at hlow
  have hm : (parts M).1 ≠ 0 := fun hm => hpos ((parts_bounds h).2.2.2.1.1 hm)
  have hpositive : 0 < (Decimal.interval (parts M).1 (parts M).2).low := by
    simp only [Decimal.interval]; split <;> omega
  have : (0 : ℚ) < (Decimal.interval (parts M).1 (parts M).2).low * 2 ^ ((parts M).2 - 2) := by positivity
  exact absurd hlow (not_le.2 this)

/-- The absolute value that a magnitude is written as. -/
def amount (magnitude : Nat) : ℚ := if magnitude = 0 then 0 else (decimal magnitude).amount

/-- **The shortest decimals of different magnitudes differ**, as numbers. -/
theorem amount_inj {M N : Nat} (hM : M < infinityBits) (hN : N < infinityBits) (h : amount M = amount N) : M = N := by
  have hne {M : Nat} (hM : M < infinityBits) (hpos : M ≠ 0) : (decimal M).amount ≠ 0 := by
    have := digits_decimal_ne_zero hM hpos
    rw [Decimal.amount]; positivity
  unfold amount at h
  by_cases hM' : M = 0
  · by_cases hN' : N = 0
    · rw [hM', hN']
    · rw [if_pos hM', if_neg hN'] at h
      exact absurd h.symm (hne hN hN')
  · by_cases hN' : N = 0
    · rw [if_neg hM', if_pos hN'] at h
      exact absurd h (hne hM hM')
    · rw [if_neg hM', if_neg hN'] at h
      exact covers_inj hM hN (covers_decimal hM hM') (h ▸ covers_decimal hN hN')

/-- A double is its sign and its magnitude. -/
theorem eq_of_magnitude {x y : Binary64} (hs : x.negative = y.negative) (hm : x.magnitude = y.magnitude) : x = y := by
  obtain ⟨a⟩ := x
  obtain ⟨b⟩ := y
  have hs : signBit ≤ a.toNat ↔ signBit ≤ b.toNat := decide_eq_decide.1 hs
  simp only [magnitude, signBit] at hs hm
  have ha := a.toNat_lt
  have hb := b.toNat_lt
  have : a.toNat = b.toNat := by omega
  exact congrArg mk (UInt64.toNat_inj.1 this)

end Binary64
end FederatedLedger
