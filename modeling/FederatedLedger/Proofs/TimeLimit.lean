import FederatedLedger.Config.Validation
import FederatedLedger.Proofs.Deadline
import FederatedLedger.Proofs.Shortest

/-!
# Time limits from a configuration

A configuration gives the budget of calls as a double, and any finite double above zero is valid. A budget is a whole
number of nanoseconds, the nearest one (`Duration.ofSeconds?_spec`), and has an upper end. So a valid limit of
`2 ^ 64` seconds or more is no budget at all, and one of half a nanosecond or less is the budget of zero
(`Config.timeout_of_valid`), under which a call ends before its first attempt (`Transport.neverTries_of_isZero`).
-/

namespace FederatedLedger

/-! ## Rounding -/

/-- `n` is the natural number nearest to `x`. Halfway between two it is the even one. -/
structure IsNearest (x : ℚ) (n : Nat) : Prop where
  near : |x - n| ≤ 1 / 2
  even : |x - n| = 1 / 2 → n % 2 = 0

/-- With at most a half over, the number below is the nearest. -/
theorem IsNearest.below {q : Nat} {part : ℚ} (h : 0 ≤ part) (hhalf : part ≤ 1 / 2) (heven : part = 1 / 2 → q % 2 = 0) :
    IsNearest (q + part) q := by
  have habs : |(q : ℚ) + part - q| = part := by rw [add_sub_cancel_left, abs_of_nonneg h]
  exact ⟨habs.symm ▸ hhalf, fun h => heven (habs ▸ h)⟩

/-- With at least a half over, it is the number above. -/
theorem IsNearest.above {q : Nat} {part : ℚ} (h : part < 1) (hhalf : 1 / 2 ≤ part) (hodd : part = 1 / 2 → q % 2 = 1) :
    IsNearest (q + part) (q + 1) := by
  have habs : |(q : ℚ) + part - (q + 1 : Nat)| = 1 - part := by
    rw [Nat.cast_add, Nat.cast_one, add_sub_add_left_eq_sub, abs_of_neg (by linarith), neg_sub]
  refine ⟨by rw [habs]; linarith, fun h => ?_⟩
  have := hodd (by rw [habs] at h; linarith)
  omega

theorem roundHalfEven_isNearest {num den : Nat} (hden : 0 < den) : IsNearest (num / den) (roundHalfEven num den) := by
  have hpos : (0 : ℚ) < den := by exact_mod_cast hden
  obtain ⟨part, hpart⟩ : ∃ part : ℚ, part * den = (num % den : Nat) := ⟨_, div_mul_cancel₀ _ hpos.ne'⟩
  have hx : (num : ℚ) / den = (num / den : Nat) + part := by
    rw [div_eq_iff hpos.ne', add_mul, hpart]
    exact_mod_cast (Nat.div_add_mod' num den).symm
  have hnonneg : 0 ≤ part := le_of_mul_le_mul_right (by rw [hpart]; simp) hpos
  have hone : part < 1 := lt_of_mul_lt_mul_right (by rw [hpart, one_mul]; exact_mod_cast Nat.mod_lt num hden) hpos.le
  have hbelow : 2 * (num % den) < den ↔ part < 1 / 2 := by
    rw [← mul_lt_mul_iff_left₀ hpos, hpart, ← Nat.cast_lt (α := ℚ)]
    push_cast
    constructor <;> intro h <;> linarith
  have habove : den < 2 * (num % den) ↔ 1 / 2 < part := by
    rw [← mul_lt_mul_iff_left₀ hpos, hpart, ← Nat.cast_lt (α := ℚ)]
    push_cast
    constructor <;> intro h <;> linarith
  rw [hx]
  unfold roundHalfEven
  simp only [hbelow, habove]
  split
  · rename_i h
    exact .below hnonneg h.le fun h' => absurd h' h.ne
  · rename_i hge
    split
    · rename_i h
      exact .above hone h.le fun h' => absurd h' h.ne'
    · rename_i hle
      split
      · rename_i heven
        exact .below hnonneg (not_lt.1 hle) fun _ => heven
      · rename_i hodd
        exact .above hone (not_lt.1 hge) fun _ => Nat.mod_two_ne_zero.1 hodd

theorem IsNearest.eq_zero_iff {x : ℚ} {n : Nat} (h : IsNearest x n) : n = 0 ↔ x ≤ 1 / 2 := by
  have hnear := abs_le.1 h.near
  constructor
  · rintro rfl
    simpa using hnear.2
  · intro hle
    by_contra hn
    -- Of the others only 1 is no further, and it is odd.
    have hn1 : (1 : ℚ) ≤ n := by exact_mod_cast Nat.one_le_iff_ne_zero.2 hn
    have hone : n = 1 := by
      have : (n : ℚ) ≤ 1 := by linarith
      exact le_antisymm (by exact_mod_cast this) (Nat.one_le_iff_ne_zero.2 hn)
    subst hone
    have hhalf : |x - (1 : Nat)| = 1 / 2 := by
      have : x = 1 / 2 := by push_cast at hnear; linarith
      rw [this]; norm_num [abs_of_neg]
    exact absurd (h.even hhalf) (by decide)

/-! ## Seconds as durations -/

/-- The number that a finite double stands for. -/
def Binary64.value (x : Binary64) : ℚ :=
  (if x.negative then -1 else 1) * ((parts x.magnitude).1 * 2 ^ (parts x.magnitude).2)

namespace Binary64
variable {x : Binary64}

theorem value_of_isPositive (h : x.isPositive = true) :
    x.negative = false ∧ x.value = (parts x.magnitude).1 * 2 ^ (parts x.magnitude).2 := by
  simp only [isPositive, Bool.and_eq_true, Bool.not_eq_true'] at h
  rw [value, h.1.1, if_neg Bool.false_ne_true, one_mul]
  exact ⟨rfl, rfl⟩

theorem value_pos (hfinite : x.isFinite = true) (h : x.isPositive = true) : 0 < x.value := by
  have hbounds := parts_bounds (of_decide_eq_true hfinite)
  obtain ⟨-, hvalue⟩ := value_of_isPositive h
  simp only [isPositive, Bool.and_eq_true, Bool.not_eq_true', isZero, decide_eq_false_iff_not] at h
  have hm : 0 < (parts x.magnitude).1 := Nat.pos_of_ne_zero fun hm => h.1.2 (hbounds.2.2.2.1.1 hm)
  rw [hvalue]
  positivity

/-- Where doubles are not whole numbers they are less than `2 ^ 53`, so none is within one below `2 ^ 64`. -/
theorem le_of_lt_size {m : Nat} {e : Int} (hm : m < 2 ^ 53) (h : (m : ℚ) * 2 ^ e < 2 ^ 64) :
    (m : ℚ) * 2 ^ e ≤ 2 ^ 64 - 1 := by
  rcases Int.le_total 0 e with he | he
  · obtain ⟨n, rfl⟩ := Int.eq_ofNat_of_zero_le he
    rw [zpow_natCast] at h ⊢
    have hlt : m * 2 ^ n < 2 ^ 64 := by exact_mod_cast h
    have hle : m * 2 ^ n + 1 ≤ 2 ^ 64 := hlt
    have : ((m * 2 ^ n + 1 : Nat) : ℚ) ≤ (2 ^ 64 : Nat) := by exact_mod_cast hle
    push_cast at this
    linarith
  · have hle : (2 : ℚ) ^ e ≤ 1 := zpow_le_one_of_nonpos₀ (by norm_num) he
    have hm : (m : ℚ) ≤ 2 ^ 53 := by exact_mod_cast hm.le
    calc (m : ℚ) * 2 ^ e ≤ m * 1 := mul_le_mul_of_nonneg_left hle (Nat.cast_nonneg m)
      _ ≤ 2 ^ 64 - 1 := by linarith

end Binary64

/-- What is at least a second short of the end is not rounded past the longest duration. -/
theorem IsNearest.le_maxNanos {x : ℚ} {n : Nat} (h : IsNearest (x * 10 ^ 9) n) (hx : x ≤ 2 ^ 64 - 1) : n ≤ maxNanos := by
  have hlt : (n : ℚ) < (2 ^ 64 * 10 ^ 9 : Nat) := by
    have := (abs_le.1 h.near).1
    push_cast
    linarith
  have hlt : n < 2 ^ 64 * 10 ^ 9 := by exact_mod_cast hlt
  simp only [maxNanos, UInt64.size]
  omega

/-- **Seconds as a duration.** They are rounded to the nearest nanosecond, and from `2 ^ 64` on they are none. -/
theorem Duration.ofSeconds?_spec {x : Binary64} (hfinite : x.isFinite = true) (hpos : x.isPositive = true) :
    (2 ^ 64 ≤ x.value → ofSeconds? x = none) ∧
    (x.value < 2 ^ 64 → ∃ d, ofSeconds? x = some d ∧ IsNearest (x.value * 10 ^ 9) d.nanos) := by
  obtain ⟨hm, -, -, -, -⟩ := Binary64.parts_bounds (of_decide_eq_true hfinite)
  obtain ⟨hnegative, hvalue⟩ := Binary64.value_of_isPositive hpos
  have heq := Binary64.decode?_of_finite hfinite
  generalize Binary64.parts x.magnitude = pair at hm hvalue heq
  obtain ⟨m, e⟩ := pair
  obtain ⟨hscale, hden⟩ := Decimal.scale_eq m e
  have hdenq : (0 : ℚ) < (Binary64.scale m e).2 := by exact_mod_cast hden
  have hsize : UInt64.size ≤ (Binary64.scale m e).1 / (Binary64.scale m e).2 ↔ 2 ^ 64 ≤ x.value := by
    rw [Nat.le_div_iff_mul_le hden, ← Nat.cast_le (α := ℚ), hscale, hvalue, Nat.cast_mul, mul_le_mul_iff_left₀ hdenq]
    norm_num [UInt64.size]
  have hseconds : ofSeconds? x = if 2 ^ 64 ≤ x.value then none else
      some (ofNanos (roundHalfEven ((Binary64.scale m e).1 * 1000000000) (Binary64.scale m e).2)) := by
    simp only [ofSeconds?, heq, hnegative, Bool.false_eq_true, false_and, if_false, hsize]
  refine ⟨fun h => by rw [hseconds, if_pos h], fun h => ⟨_, by rw [hseconds, if_neg (not_le.2 h)], ?_⟩⟩
  generalize hn : roundHalfEven ((Binary64.scale m e).1 * 1000000000) (Binary64.scale m e).2 = n
  have hnearest : IsNearest (x.value * 10 ^ 9) n := by
    have hquot : x.value * 10 ^ 9 = ((Binary64.scale m e).1 * 1000000000 : Nat) / (Binary64.scale m e).2 := by
      rw [Nat.cast_mul, hscale, hvalue]
      field_simp
      norm_num
    rw [hquot, ← hn]
    exact roundHalfEven_isNearest hden
  have hle : x.value ≤ 2 ^ 64 - 1 := by
    rw [hvalue] at h ⊢
    exact Binary64.le_of_lt_size hm h
  rwa [nanos_ofNanos, Nat.min_eq_left (hnearest.le_maxNanos hle)]

/-! ## Calls without time -/

/-- Calls that bring no budget of their own end at once, without an attempt and without an error of a node. -/
def Transport.NeverTries (t : Transport) : Prop :=
  ∀ {σ : Type} (w : World σ) (turns : Nat) (request : Request) (now : Instant) (network : σ), request.timeout = none →
    now < Instant.bound → ∃ out, t.forward w (turns + 1) request now network = some out ∧
      out.result = .error (.timeout []) ∧ out.attempts = []

theorem Transport.neverTries_of_isZero {t : Transport} {T : Duration} (hT : t.timeout = some T) (hzero : T.isZero = true) :
    t.NeverTries := by
  intro σ w turns request now network hnone hnow
  have hend : (t.call request now).deadline.notAfter = some now := by
    have := (Duration.isZero_iff T).1 hzero
    refine Deadline.notAfter_eq_some_iff.2 ⟨T, ?_, Instant.add?_eq_some_iff.2 ?_⟩
    · simp [call, hnone, hT]
    · simp [call, this, hnow]
  have hexpired : (t.call request now).deadline.isExpired (t.start w now network).now = true :=
    (Deadline.isExpired_iff hend).2 (Int.le_add_of_nonneg_right (Int.natCast_nonneg _))
  rw [forward, Progress.run, Progress.step, if_pos hexpired]
  exact ⟨_, rfl, rfl, rfl⟩

theorem Transport.timeout_ofNodes {nodes : List Node} {options : TransportOptions} {t : Transport} {report : Report}
    (h : ofNodes nodes options = .ok (t, report)) : t.timeout = options.timeout := by
  unfold ofNodes at h
  cases hp : Pool.ofNodes nodes options.backoff with
  | error e => rw [hp] at h; cases h
  | ok p => rw [hp] at h; cases h; rfl

/-! ## The time limit of a configuration -/

theorem Config.isValid_timeout {c : Config} {x : Binary64} (hc : c.isValid = true) (hx : c.calls.timeoutSecs = some x) :
    x.isFinite = true ∧ x.isPositive = true := by
  simp only [isValid, problems, List.isEmpty_iff, List.append_eq_nil_iff] at hc
  have hcalls := hc.1.1.2
  simp only [CallConfig.problems, hx] at hcalls
  by_contra hbad
  rw [if_neg hbad] at hcalls
  cases hcalls

/-- **A configured time limit.** The limit of a valid configuration is a number of seconds above zero. The budget of calls
is this number, to the nearest nanosecond and more than nothing, if and only if it is more than half a nanosecond and
less than `2 ^ 64` seconds. From there on there is no budget. Up to half a nanosecond the budget is zero, and calls that
bring none of their own end without an attempt. -/
theorem Config.timeout_of_valid {c : Config} {x : Binary64} (hc : c.isValid = true) (hx : c.calls.timeoutSecs = some x) :
    0 < x.value ∧
    ((∃ d, c.options.timeout = some d ∧ d.isZero = false ∧ IsNearest (x.value * 10 ^ 9) d.nanos) ↔
      1 / 2 < x.value * 10 ^ 9 ∧ x.value < 2 ^ 64) ∧
    (2 ^ 64 ≤ x.value → c.options.timeout = none) ∧
    (x.value * 10 ^ 9 ≤ 1 / 2 → c.options.timeout = some Duration.zero ∧
      ∀ nodes t report, Transport.ofNodes nodes c.options = .ok (t, report) → t.NeverTries) := by
  obtain ⟨hfinite, hpositive⟩ := isValid_timeout hc hx
  obtain ⟨hlong, hfits⟩ := Duration.ofSeconds?_spec hfinite hpositive
  have htimeout : c.options.timeout = Duration.ofSeconds? x := by simp [options, timeout, hx]
  rw [htimeout]
  refine ⟨Binary64.value_pos hfinite hpositive, ⟨?_, ?_⟩, hlong, ?_⟩
  · rintro ⟨d, hd, hzero, hnearest⟩
    refine ⟨not_le.1 fun hle => ?_, not_le.1 fun hle => ?_⟩
    · exact absurd ((Duration.isZero_iff d).2 (hnearest.eq_zero_iff.2 hle)) (by rw [hzero]; exact Bool.false_ne_true)
    · rw [hlong hle] at hd
      cases hd
  · rintro ⟨hhalf, hlt⟩
    obtain ⟨d, hd, hnearest⟩ := hfits hlt
    refine ⟨d, hd, (Duration.isZero_eq_false_iff d).2 (Nat.pos_of_ne_zero fun hzero => ?_), hnearest⟩
    exact absurd (hnearest.eq_zero_iff.1 hzero) (not_le.2 hhalf)
  · intro hhalf
    obtain ⟨d, hd, hnearest⟩ := hfits (by linarith)
    have hzero : d.nanos = 0 := hnearest.eq_zero_iff.2 hhalf
    obtain rfl : d = Duration.zero := Duration.ext_nanos hzero
    refine ⟨hd, fun nodes t report ht => Transport.neverTries_of_isZero (T := Duration.zero) ?_ rfl⟩
    rw [Transport.timeout_ofNodes ht, htimeout, hd]

/-- One second and a half. -/
theorem Config.timeout_of_valid_seconds : ∃ (c : Config) (d : Duration),
    c.calls.timeoutSecs = some (Binary64.ofDecimal false 15 (-1)) ∧ c.isValid = true ∧ c.options.timeout = some d ∧
    d.nanos = 1500000000 ∧ d.isZero = false ∧ IsNearest ((Binary64.ofDecimal false 15 (-1)).value * 10 ^ 9) d.nanos := by
  let c : Config := { Config.standard with calls := ⟨some (Binary64.ofDecimal false 15 (-1)), false⟩ }
  have hvalid : c.isValid = true := by decide +kernel
  have hvalue : (Binary64.ofDecimal false 15 (-1)).value = 3 / 2 := by
    have hparts : Binary64.parts (Binary64.ofDecimal false 15 (-1)).magnitude = (3 * 2 ^ 51, -52) := by decide +kernel
    have hnegative : (Binary64.ofDecimal false 15 (-1)).negative = false := by decide +kernel
    rw [Binary64.value, hparts, hnegative]
    norm_num
  obtain ⟨-, hlimit, -, -⟩ := timeout_of_valid hvalid rfl
  obtain ⟨d, hd, hzero, hnearest⟩ := hlimit.2 (by rw [hvalue]; norm_num)
  have hnanos : c.options.timeout.map Duration.nanos = some 1500000000 := by decide +kernel
  rw [hd] at hnanos
  exact ⟨c, d, rfl, hvalid, hd, Option.some.inj hnanos, hzero, hnearest⟩

/-- Both limits are valid, a tenth of a nanosecond and more than three million million years. The one is a budget of
zero, under which nothing is tried, and the other is no budget. -/
theorem Config.time_limit_lost : ∃ c c' : Config, c.isValid = true ∧ c'.isValid = true ∧
    c.calls.timeoutSecs = some (Binary64.ofDecimal false 1 (-10)) ∧ c.options.timeout = some Duration.zero ∧
    (∃ t report, Transport.ofNodes [⟨Endpoint.standard, []⟩] c.options = .ok (t, report) ∧ t.NeverTries) ∧
    c'.calls.timeoutSecs = some (Binary64.ofDecimal false 1 20) ∧ c'.options.timeout = none := by
  let tiny : Config := { Config.standard with calls := ⟨some (Binary64.ofDecimal false 1 (-10)), false⟩ }
  let huge : Config := { Config.standard with calls := ⟨some (Binary64.ofDecimal false 1 20), false⟩ }
  have hzero : tiny.options.timeout = some Duration.zero := by decide +kernel
  have hnodes : (Transport.ofNodes [⟨Endpoint.standard, []⟩] tiny.options).toOption.isSome = true := by decide +kernel
  refine ⟨tiny, huge, by decide +kernel, by decide +kernel, rfl, hzero, ?_, rfl, by decide +kernel⟩
  cases ht : Transport.ofNodes [⟨Endpoint.standard, []⟩] tiny.options with
  | error e => rw [ht] at hnodes; cases hnodes
  | ok x =>
    refine ⟨x.1, x.2, rfl, Transport.neverTries_of_isZero (T := Duration.zero) ?_ rfl⟩
    rw [Transport.timeout_ofNodes ht, hzero]

end FederatedLedger
