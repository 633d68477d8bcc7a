import FederatedLedger.Time

/-!
# Backoff and deadlines

A node that failed is left alone for a while: `initialDelay` at first, twice as long after each further
failure, never longer than a cap. A call has a deadline, shared by all of its attempts; its cap is half its
timeout. A timeout whose end does not exist as an instant is no limit at all.
-/

namespace FederatedLedger

/-- How long failed nodes are left alone (`BackoffPolicy`). -/
structure Backoff where
  initialDelay : Duration
  /-- Where the count of failures stops. -/
  maxRetries : Nat
  /-- The cap of a call without a timeout. -/
  noTimeoutCap : Duration
  /-- Whether a random tenth is added. -/
  jitter : Bool
deriving DecidableEq, Repr

/-- Half a second at first, ten doublings, ten seconds without a timeout, no jitter (`BackoffPolicy::default`). -/
def Backoff.standard : Backoff := ⟨Duration.ofMillis 500, 10, Duration.ofSecs 10, false⟩

/-- The time budget of a call. -/
structure Deadline where
  started : Instant
  timeout : Option Duration
deriving DecidableEq, Repr

namespace Deadline

/-- When the budget runs out, if it does (`Deadline::not_after`). -/
def notAfter (d : Deadline) : Option Instant := d.timeout.bind d.started.add?

/-- What is left of the budget, if there is one (`Deadline::remaining_at`). -/
def remaining (d : Deadline) (now : Instant) : Option Duration := d.notAfter.map (·.since now)

/-- Whether nothing is left (`Deadline::is_expired_at`). -/
def isExpired (d : Deadline) (now : Instant) : Bool := (d.remaining now).any Duration.isZero

/-- Whether waiting as long as `wait` reaches the deadline (`Deadline::would_expire`). -/
def wouldExpire (d : Deadline) (now : Instant) (wait : Duration) : Bool :=
  (d.remaining now).any fun r => r ≤ wait

end Deadline

namespace Backoff

/-- The delay after a failure, before cap and jitter. After 31 doublings it grows no more. -/
def doubled (p : Backoff) (retries : Nat) : Duration :=
  p.initialDelay.times (Nat.pow 2 (min (min retries p.maxRetries) 31))

/-- A delay with up to a tenth more, of which `draw` picks the milliseconds, as many as 64 bits hold
(`with_jitter`). -/
def withJitter (draw : Nat) (d : Duration) : Duration :=
  let range := min (d.millis / 10) (UInt64.size - 1)
  if range = 0 then d else d.plus (Duration.ofMillis (draw % range))

/-- The delay after a failure of a node that failed `retries` times before (`BackoffPolicy::delay`). -/
def delay (p : Backoff) (draw retries : Nat) (cap : Duration) : Duration :=
  let d := p.doubled retries
  Duration.least (if p.jitter then withJitter draw d else d) cap

/-- The cap for the calls of a deadline (`BackoffPolicy::cap_for`). -/
def capFor (p : Backoff) (d : Deadline) : Duration :=
  match d.timeout with
  | some t => t.half
  | none => p.noTimeoutCap

/-- No delay passes its cap. -/
theorem nanos_delay_le (p : Backoff) (draw retries : Nat) (cap : Duration) :
    (p.delay draw retries cap).nanos ≤ cap.nanos := by
  simp only [delay, Duration.nanos_least]
  exact Nat.min_le_right _ _

theorem nanos_le_withJitter (draw : Nat) (d : Duration) : d.nanos ≤ (withJitter draw d).nanos := by
  unfold withJitter
  dsimp only
  split
  · exact Nat.le_refl _
  · exact Nat.le_min.2 ⟨Nat.le_add_right _ _, d.nanos_le⟩

end Backoff
end FederatedLedger
