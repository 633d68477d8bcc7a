import FederatedLedger.Proofs.Bookkeeping

/-!
# Failures that shorten a backoff

A failure sets the end of the backoff of its node by its own instant and its own cap, whatever end stood there. The
delays before the cap do not shrink from one failure to the next, except that at the ceiling of the count less jitter
may be drawn (`Backoff.beforeCap_mono`). So the new end lies before the old one for three reasons only
(`Backoff.backoffEnd_lt_iff`): the cap of the report is over before the old end, as can happen to a call with little
time that overlaps another; or the delay leads past the last instant, and the thirty years that stand for it are over
before the old end; or the count is at its ceiling, and the jitter that is drawn is less than before.
-/

namespace FederatedLedger
namespace Backoff
variable {b : Backoff} {now earlier a : Instant} {cap cap' : Duration} {draw draw' k : Nat}

/-- The delay after a failure, before the cap. -/
def beforeCap (b : Backoff) (draw retries : Nat) : Duration :=
  if b.jitter then withJitter draw (b.doubled retries) else b.doubled retries

theorem nanos_delay_eq (b : Backoff) (draw retries : Nat) (cap : Duration) :
    (b.delay draw retries cap).nanos = min (b.beforeCap draw retries).nanos cap.nanos := by
  simp only [delay, beforeCap, Duration.nanos_least]

/-- Jitter adds a tenth at most. -/
theorem nanos_withJitter_le (draw : Nat) (d : Duration) :
    (withJitter draw d).nanos ≤ d.nanos + d.nanos / 10 := by
  unfold withJitter Duration.millis
  dsimp only
  split
  · exact Nat.le_add_right _ _
  · rename_i hrange
    have hdraw := Nat.mod_lt draw (Nat.pos_of_ne_zero hrange)
    simp only [Duration.plus, Duration.ofMillis, Duration.nanos_ofNanos]
    omega

/-- The delay doubles until the count of failures is at its ceiling. -/
theorem nanos_doubled (b : Backoff) (k : Nat) : (b.doubled (min k b.maxRetries)).nanos =
    min (b.initialDelay.nanos * Nat.pow 2 (min k (min b.maxRetries 31))) maxNanos := by
  have hexp : min (min (min k b.maxRetries) b.maxRetries) 31 = min k (min b.maxRetries 31) := by omega
  simp only [doubled, Duration.times, Duration.nanos_ofNanos, hexp]

/-- But for the caps, the delay of a further failure is no shorter than that of the one before, unless there is jitter
and the count is at its ceiling. -/
theorem beforeCap_mono (h : b.jitter = true → k < min b.maxRetries 31) :
    (b.beforeCap draw' (min k b.maxRetries)).nanos ≤ (b.beforeCap draw (min (k + 1) b.maxRetries)).nanos := by
  have hold := b.nanos_doubled k
  have hnew := b.nanos_doubled (k + 1)
  unfold beforeCap
  cases hj : b.jitter with
  | false =>
    have hpow : Nat.pow 2 (min k (min b.maxRetries 31)) ≤ Nat.pow 2 (min (k + 1) (min b.maxRetries 31)) :=
      Nat.pow_le_pow_right (by decide) (by omega)
    have := Nat.mul_le_mul_left b.initialDelay.nanos hpow
    simp only [Bool.false_eq_true, if_false]
    omega
  | true =>
    -- a tenth is less than what doubling adds
    have hk := h hj
    rw [Nat.min_eq_left (Nat.le_of_lt hk)] at hold
    rw [Nat.min_eq_left (Nat.succ_le_of_lt hk), show Nat.pow 2 (k + 1) = Nat.pow 2 k * 2 from rfl,
      ← Nat.mul_assoc] at hnew
    have hjitter := nanos_withJitter_le draw' (b.doubled (min k b.maxRetries))
    have hlongest := (withJitter draw' (b.doubled (min k b.maxRetries))).nanos_le
    have hdoubled := nanos_le_withJitter draw (b.doubled (min (k + 1) b.maxRetries))
    simp only [if_true]
    omega

/-- **When a further failure brings the end forward.** -/
theorem backoffEnd_lt_iff (hle : earlier ≤ now) (hfar : (earlier.add? Health.farFuture).isSome = true)
    (hnow : (now.add? Health.farFuture).isSome = true)
    (ha : a = Health.backoffEnd earlier (b.delay draw' (min k b.maxRetries) cap')) {delay : Duration}
    (hdelay : delay = b.delay draw (min (k + 1) b.maxRetries) cap) :
    Health.backoffEnd now delay < a ↔ now + cap.nanos < a ∨
      (Instant.bound ≤ now + delay.nanos ∧ now + Health.farFuture.nanos < a) ∨
      (b.jitter = true ∧ min b.maxRetries 31 ≤ k ∧ now + delay.nanos < a) := by
  have hold := b.nanos_delay_eq draw' (min k b.maxRetries) cap'
  have hnew := b.nanos_delay_eq draw (min (k + 1) b.maxRetries) cap
  rw [← hdelay] at hnew
  have hmono : (b.jitter = true → k < min b.maxRetries 31) →
      (b.beforeCap draw' (min k b.maxRetries)).nanos ≤ (b.beforeCap draw (min (k + 1) b.maxRetries)).nanos :=
    beforeCap_mono
  rw [Health.backoffEnd_eq hfar] at ha
  rw [Health.backoffEnd_eq hnow, ← Health.nanos_farFuture]
  rw [← Health.nanos_farFuture] at ha
  obtain ⟨far, hfar⟩ := Option.isSome_iff_exists.1 hfar
  obtain ⟨hbound, -⟩ := Instant.add?_eq_some_iff.1 hfar
  grind

end Backoff

/-- **What shortens a backoff.** Take a new pool, any history of it, and an instant no earlier than the failures of the
history. If a node is in backoff, or was, since its last answer, then a further failure of it gives it a new end, and that
lies before the old end iff the cap of the report is over before the old end; or the delay that is given back leads past
the last instant, and thirty years from now are over before the old end; or there is jitter, the failures of the node have
passed the ceiling, and the delay that is given back is over before the old end. -/
theorem failure_shortens_iff {connections : List Connection} {b : Backoff} {p : Pool}
    (hp : Pool.ofConnections connections b = .ok p) {ops : List PoolOp}
    (hfar : ∀ op ∈ ops, ∀ t ∈ op.failedAt?, (t.add? Health.farFuture).isSome = true) {now : Instant}
    (hnow : (now.add? Health.farFuture).isSome = true) (hlast : ∀ op ∈ ops, ∀ t ∈ op.failedAt?, t ≤ now) {i : Nat}
    {m : Member} (hm : (p.after ops).members[i]? = some m) {a : Instant} (ha : m.health.nextAvailableAt = some a)
    (draw : Nat) (cap : Duration) :
    ∃ m' e, ((p.after ops).failed now draw i cap).2.members[i]? = some m' ∧ m'.health.nextAvailableAt = some e ∧
      (e < a ↔ now + cap.nanos < a ∨
        (Instant.bound ≤ now + ((p.after ops).failed now draw i cap).1.delay.nanos ∧
          now + Health.farFuture.nanos < a) ∨
        (b.jitter = true ∧ min b.maxRetries 31 < (PoolOp.failures i ops).length ∧
          now + ((p.after ops).failed now draw i cap).1.delay.nanos < a)) := by
  have hbackoff : (p.after ops).backoff = b := by rw [Pool.backoff_after, (Pool.members_ofConnections hp).2.2]
  have hold : m.health.Follows b (PoolOp.failures i ops) := hbackoff ▸ Pool.follows_after hp ops i m hm
  have hmember : ((p.after ops).failed now draw i cap).2.members[i]? =
      some { m with health := m.health.charged b now draw cap } := by
    rw [Pool.members_failed, List.getElem?_modify_eq, hm, hbackoff]; rfl
  have hdelay : ((p.after ops).failed now draw i cap).1.delay = b.delay draw m.health.retries cap := by
    simp only [Pool.failed, hm, hbackoff]
  refine ⟨_, _, hmember, rfl, ?_⟩
  have hends := hold.ends
  have hretries := hold.retries
  rw [hdelay]
  -- a node with an end of backoff failed since its last answer
  cases hfailures : PoolOp.failures i ops with
  | nil =>
    rw [hfailures, ha] at hends
    cases hends
  | cons latest before =>
    obtain ⟨earlier, cap'⟩ := latest
    obtain ⟨op, hop, ht⟩ := PoolOp.mem_of_mem_failures (hfailures ▸ List.mem_cons_self)
    rw [hfailures, ha] at hends
    rw [hfailures] at hretries
    obtain ⟨draw', hends⟩ := hends
    rw [List.length_cons, Nat.lt_succ_iff]
    exact Backoff.backoffEnd_lt_iff (hlast op hop _ ht) (hfar op hop _ ht) hnow (Option.some.inj hends)
      (by rw [hretries]; rfl)

/-- The first delay is 2 ^ 62 seconds, and twice as much is past the last instant. So a second failure at the same
instant, with no cap at all, leaves thirty years of it. -/
theorem failure_shortens_iff_thirty_years : ∃ (p : Pool) (ops : List PoolOp) (m m' : Member),
    Pool.ofConnections [⟨"http://a:9984", []⟩] ⟨Duration.ofSecs 4611686018427387904, 10, Duration.longest, false⟩ = .ok p ∧
    p.Orderly ops ∧ (p.after ops).members[0]? = some m ∧
    m.health.nextAvailableAt = some 4611686018427387904000000000 ∧
    ((p.after ops).failed 0 0 0 Duration.longest).2.members[0]? = some m' ∧
    ∃ e, m'.health.nextAvailableAt = some e ∧ e < 4611686018427387904000000000 := by
  let b : Backoff := ⟨Duration.ofSecs 4611686018427387904, 10, Duration.longest, false⟩
  let p : Pool := ⟨[⟨⟨"http://a:9984", []⟩, Health.fresh⟩], List.cons_ne_nil _ _, 0, b⟩
  have hp : Pool.ofConnections [⟨"http://a:9984", []⟩] b = .ok p := rfl
  let h := (p.get 0 ⟨0, none⟩).1
  let ops : List PoolOp := [.report h (.failed 0 0 Duration.longest), .get 0 ⟨0, none⟩]
  have hops : p.Orderly ops := ⟨List.mem_singleton.2 rfl, trivial⟩
  have hfar : ∀ op ∈ ops, ∀ t ∈ op.failedAt?, (t.add? Health.farFuture).isSome = true := by decide +kernel
  have hlast : ∀ op ∈ ops, ∀ t ∈ op.failedAt?, t ≤ 0 := by decide +kernel
  obtain ⟨m, hm⟩ : ∃ m, (p.after ops).members[0]? = some m := Option.isSome_iff_exists.1 (by decide +kernel)
  have ha : m.health.nextAvailableAt = some 4611686018427387904000000000 := by
    have : ((p.after ops).members[0]?.bind fun m => m.health.nextAvailableAt) = some 4611686018427387904000000000 := by
      decide +kernel
    rwa [hm] at this
  have hnow : ((0 : Instant).add? Health.farFuture).isSome = true := by decide +kernel
  obtain ⟨m', e, hm', he, hiff⟩ := failure_shortens_iff hp hfar hnow hlast hm ha 0 Duration.longest
  exact ⟨p, ops, m, m', hp, hops, hm, ha, hm', e, he, hiff.2 (.inr (.inl (by decide +kernel)))⟩

/-- Two calls ask for the only node at the same time, and both fail at once. The second has little time, so the half
second that the first one gave the node becomes a tenth. -/
theorem short_cap_shortens_backoff : ∃ (p : Pool) (ops : List PoolOp) (h : Handle) (m m' : Member),
    Pool.ofConnections [⟨"http://a:9984", []⟩] Backoff.standard = .ok p ∧ p.Orderly ops ∧ h ∈ p.handed ops ∧
    (∀ op ∈ ops, ∀ t ∈ op.failedAt?, t ≤ 0) ∧ (p.after ops).members[h.index]? = some m ∧
    m.health.nextAvailableAt = some 500000000 ∧
    ((p.after ops).failed 0 0 h.index (Duration.ofMillis 100)).2.members[h.index]? = some m' ∧
    m'.health.nextAvailableAt = some 100000000 := by
  let p : Pool := ⟨[⟨⟨"http://a:9984", []⟩, Health.fresh⟩], List.cons_ne_nil _ _, 0, Backoff.standard⟩
  let first := (p.get 0 ⟨0, some (Duration.ofSecs 120)⟩).1
  let second := (p.get 0 ⟨0, some (Duration.ofMillis 200)⟩).1
  let ops : List PoolOp := [.report first (.failed 0 0 (Duration.ofSecs 60)),
    .get 0 ⟨0, some (Duration.ofMillis 200)⟩, .get 0 ⟨0, some (Duration.ofSecs 120)⟩]
  have hops : p.Orderly ops := ⟨List.mem_cons_of_mem _ (List.mem_singleton.2 rfl), trivial⟩
  have hlast : ∀ op ∈ ops, ∀ t ∈ op.failedAt?, t ≤ 0 := by decide +kernel
  refine ⟨p, ops, second, _, _, rfl, hops, List.mem_cons_self, hlast, rfl, ?_, rfl, ?_⟩
  · decide +kernel
  · decide +kernel

/-- With jitter and no doublings a node fails twice at the same instant. Ten milliseconds are added to the first delay and
none to the second. -/
theorem less_jitter_shortens_backoff : ∃ (p : Pool) (ops : List PoolOp) (h : Handle) (m m' : Member),
    Pool.ofConnections [⟨"http://a:9984", []⟩] ⟨Duration.ofMillis 500, 0, Duration.ofSecs 10, true⟩ = .ok p ∧
    p.Orderly ops ∧ h ∈ p.handed ops ∧ (p.after ops).members[h.index]? = some m ∧
    m.health.nextAvailableAt = some 510000000 ∧
    ((p.after ops).failed 0 0 h.index (Duration.ofSecs 60)).2.members[h.index]? = some m' ∧
    m'.health.nextAvailableAt = some 500000000 := by
  let p : Pool := ⟨[⟨⟨"http://a:9984", []⟩, Health.fresh⟩], List.cons_ne_nil _ _, 0,
    ⟨Duration.ofMillis 500, 0, Duration.ofSecs 10, true⟩⟩
  let h := (p.get 0 ⟨0, none⟩).1
  let ops : List PoolOp := [.report h (.failed 0 10 (Duration.ofSecs 60)), .get 0 ⟨0, none⟩]
  refine ⟨p, ops, h, _, _, rfl, ⟨List.mem_singleton.2 rfl, trivial⟩, List.mem_singleton.2 rfl, rfl, ?_, rfl, ?_⟩
  · decide +kernel
  · decide +kernel

end FederatedLedger
