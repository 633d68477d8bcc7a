import FederatedLedger.Backoff

/-!
# Deadlines as instants

A deadline is consulted in three ways: `isExpired` before a turn, `wouldExpire` for the wait of the node that
was chosen, and `remaining` for the time that an attempt is given. Where its end `notAfter` exists, all three
are comparisons with that one instant, boundaries included: nothing is left from the end on, a wait up to the
end is too long, and what remains reaches exactly to the end. Where the end does not exist there is no limit.
-/

namespace FederatedLedger

/-! ## Durations and instants as numbers -/

namespace Duration

theorem le_iff (a b : Duration) : a ≤ b ↔ a.nanos ≤ b.nanos := Iff.rfl

theorem lt_iff (a b : Duration) : a < b ↔ a.nanos < b.nanos := Iff.rfl

theorem isZero_iff (d : Duration) : d.isZero = true ↔ d.nanos = 0 := by simp [isZero]

theorem isZero_eq_false_iff (d : Duration) : d.isZero = false ↔ 0 < d.nanos := by
  rw [← Bool.not_eq_true, isZero_iff, Nat.pos_iff_ne_zero]

end Duration

theorem maxNanos_pos : 0 < maxNanos := by decide

namespace Instant

theorem nanos_since (later earlier : Instant) :
    (since later earlier).nanos = min (later - earlier).toNat maxNanos := rfl

theorem add?_eq_some_iff {t e : Instant} {d : Duration} :
    t.add? d = some e ↔ t + d.nanos < bound ∧ t + d.nanos = e := by
  simp [add?]

end Instant

namespace Deadline
variable {d : Deadline} {e now : Instant}

theorem notAfter_eq_some_iff :
    d.notAfter = some e ↔ ∃ T, d.timeout = some T ∧ d.started.add? T = some e := by
  simp [notAfter, Option.bind_eq_some_iff]

/-- The end of a budget lies no further from its start than a duration reaches. -/
theorem notAfter_le (h : d.notAfter = some e) : d.started ≤ e ∧ e ≤ d.started + maxNanos := by
  obtain ⟨T, -, hT⟩ := notAfter_eq_some_iff.1 h
  obtain ⟨-, rfl⟩ := Instant.add?_eq_some_iff.1 hT
  have := T.nanos_le
  constructor <;> grind

/-- Not waiting at all is too long only when nothing is left. -/
theorem wouldExpire_of_isZero {wait : Duration} (h : wait.isZero = true) :
    d.wouldExpire now wait = d.isExpired now := by
  unfold wouldExpire isExpired
  congr 1
  funext r
  rw [Bool.eq_iff_iff, decide_eq_true_eq, Duration.le_iff, Duration.isZero_iff, (Duration.isZero_iff _).1 h]
  exact Nat.le_zero

/-! ## A deadline with an end -/

theorem remaining_of_notAfter (h : d.notAfter = some e) : d.remaining now = some (Instant.since e now) := by
  simp [remaining, h]

/-- What is left is never cut off at the longest duration. -/
theorem nanos_since_notAfter (h : d.notAfter = some e) (hn : d.started ≤ now) :
    (Instant.since e now).nanos = (e - now).toNat := by
  have := (notAfter_le h).2
  rw [Instant.nanos_since]
  grind

theorem isExpired_iff (h : d.notAfter = some e) : d.isExpired now = true ↔ e ≤ now := by
  have := maxNanos_pos
  simp only [isExpired, remaining_of_notAfter h, Option.any_some, Duration.isZero_iff, Instant.nanos_since]
  grind

theorem isExpired_eq_false_iff (h : d.notAfter = some e) : d.isExpired now = false ↔ now < e := by
  rw [← Bool.not_eq_true, isExpired_iff h]
  exact Int.not_le

theorem wouldExpire_iff (h : d.notAfter = some e) (hn : d.started ≤ now) (wait : Duration) :
    d.wouldExpire now wait = true ↔ e ≤ now + wait.nanos := by
  simp only [wouldExpire, remaining_of_notAfter h, Option.any_some, decide_eq_true_eq, Duration.le_iff,
    nanos_since_notAfter h hn]
  grind

/-! ## A deadline without an end -/

theorem remaining_of_none (h : d.notAfter = none) : d.remaining now = none := by
  simp [remaining, h]

theorem isExpired_of_none (h : d.notAfter = none) : d.isExpired now = false := by
  simp [isExpired, remaining_of_none h]

theorem wouldExpire_of_none (h : d.notAfter = none) (wait : Duration) : d.wouldExpire now wait = false := by
  simp [wouldExpire, remaining_of_none h]

end Deadline
end FederatedLedger
