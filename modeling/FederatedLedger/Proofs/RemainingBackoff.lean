import FederatedLedger.Config.Validation
import FederatedLedger.Proofs.Deadline
import FederatedLedger.Proofs.History

/-!
# The backoff that is reported

The status of a node says in whole milliseconds how long its backoff still lasts, in 64 bits. A longer wait does not stop
at the largest word but loses its upper bits, so a status is right, now and as the time goes on, iff the wait is less than
`2 ^ 64` milliseconds (`Health.reported_iff`). A wait goes back to the delay of a failure (`Pool.dated_after`), and the
section of a configuration that says how nodes are left alone has a longest delay (`Backoff.millis_delay_le`). So it
depends on the section alone whether all statuses of all histories are right (`reported_backoff`).
-/

namespace FederatedLedger

/-! ## One status -/

/-- As long as nothing is reported on it, what the status of a node says from `now` on is its wait: the whole milliseconds
of it, or the largest word. -/
structure Health.Reported (h : Health) (now : Instant) : Prop where
  millis : ∀ later, now ≤ later → h.remainingMillis later = min (h.wait later).millis (UInt64.size - 1)
  zero : ∀ later, now ≤ later → h.remainingMillis later = 0 → (h.wait later).nanos < 1000000
  antitone : ∀ later latest, now ≤ later → later ≤ latest → h.remainingMillis latest ≤ h.remainingMillis later

namespace Health
variable {h : Health} {now later : Instant}

theorem remainingMillis_eq (h : Health) (now : Instant) : h.remainingMillis now = (h.wait now).millis % UInt64.size :=
  UInt64.toNat_ofNat'

theorem nanos_wait_antitone (hl : now ≤ later) : (h.wait later).nanos ≤ (h.wait now).nanos := by
  unfold wait
  cases h.nextAvailableAt with
  | none => exact Nat.le_refl _
  | some free =>
    simp only [Instant.nanos_since]
    grind

/-- **When a status is right.** A longer wait comes down to `2 ^ 64` milliseconds, and then the status says zero. -/
theorem reported_iff : h.Reported now ↔ (h.wait now).millis < UInt64.size := by
  have hsize : UInt64.size = 18446744073709551616 := rfl
  constructor
  · intro hr
    refine Nat.lt_of_not_le fun hlong => ?_
    cases hat : h.nextAvailableAt with
    | none =>
      simp only [wait, hat, Duration.millis, Duration.nanos_zero] at hlong
      exact absurd hlong (by decide)
    | some free =>
      simp only [wait, hat, Duration.millis, Instant.nanos_since] at hlong
      have hwait : (h.wait (free - 18446744073709551616000000)).millis = UInt64.size := by
        simp only [wait, hat, Duration.millis, Instant.nanos_since, maxNanos, UInt64.size]
        omega
      have hright := hr.millis (free - 18446744073709551616000000) (by grind)
      rw [remainingMillis_eq, hwait] at hright
      exact absurd hright (by decide)
  · intro hlt
    have hmillis (later : Instant) (hl : now ≤ later) : h.remainingMillis later = (h.wait later).millis ∧
        (h.wait later).millis < UInt64.size := by
      have hlater := Nat.lt_of_le_of_lt (Nat.div_le_div_right (nanos_wait_antitone hl)) hlt
      exact ⟨(h.remainingMillis_eq later).trans (Nat.mod_eq_of_lt hlater), hlater⟩
    refine ⟨fun later hl => ?_, fun later hl hzero => ?_, fun later latest hl hll => ?_⟩
    · have := hmillis later hl
      omega
    · have := hmillis later hl
      unfold Duration.millis at this
      omega
    · rw [(hmillis later hl).1, (hmillis latest (Int.le_trans hl hll)).1]
      exact Nat.div_le_div_right (nanos_wait_antitone hll)

end Health

/-! ## Where a backoff comes from -/

/-- Whatever the end of the backoff is, a failure in the history set it. -/
def Health.Dated (b : Backoff) (ops : List PoolOp) (h : Health) : Prop :=
  ∀ free ∈ h.nextAvailableAt, ∃ op ∈ ops, ∃ t ∈ op.failedAt?, ∃ draw retries cap,
    free = Health.backoffEnd t (b.delay draw retries cap)

theorem Health.Dated.cons {b : Backoff} {ops : List PoolOp} {h : Health} (hd : h.Dated b ops) (op : PoolOp) :
    h.Dated b (op :: ops) := by
  intro free hfree
  obtain ⟨op', hop, hrest⟩ := hd free hfree
  exact ⟨op', List.mem_cons_of_mem op hop, hrest⟩

/-- A report sets the end anew or takes it away. -/
theorem Health.Dated.told {b : Backoff} {ops : List PoolOp} {h : Health} (handle : Handle) (f : Feedback) :
    (h.told b f).Dated b (.report handle f :: ops) := by
  intro free hfree
  cases f with
  | answered => cases hfree
  | failed now draw cap =>
    cases hfree
    exact ⟨_, List.mem_cons_self, now, rfl, draw, h.retries, cap, rfl⟩

/-- One operation: the node that it reports on is dated by it, and every other node as before. -/
theorem Pool.dated_apply {p : Pool} {ops : List PoolOp}
    (hp : ∀ (i : Nat) (m : Member), p.members[i]? = some m → m.health.Dated p.backoff ops) (op : PoolOp) :
    ∀ (i : Nat) (m : Member), (p.apply op).members[i]? = some m → m.health.Dated p.backoff (op :: ops) := by
  intro i m hm
  by_cases hi : op.subject? = some i
  · cases op with
    | get now d => cases hi
    | report handle f =>
      cases hi
      rw [getElem?_report] at hm
      obtain ⟨m', -, rfl⟩ := Option.map_eq_some_iff.1 hm
      exact Health.Dated.told handle f
  · rw [p.getElem?_apply op hi] at hm
    exact (hp i m hm).cons op

theorem Pool.dated_after {connections : List Connection} {b : Backoff} {p : Pool}
    (hp : ofConnections connections b = .ok p) (ops : List PoolOp) :
    ∀ (i : Nat) (m : Member), (p.after ops).members[i]? = some m → m.health.Dated b ops := by
  obtain ⟨hmembers, -, hb⟩ := members_ofConnections hp
  induction ops with
  | nil =>
    intro i m hm
    simp only [after, hmembers, List.getElem?_map, Option.map_eq_some_iff] at hm
    obtain ⟨c, -, rfl⟩ := hm
    intro free hfree
    cases hfree
  | cons op ops ih =>
    have hbackoff : (p.after ops).backoff = b := by rw [backoff_after, hb]
    rw [← hbackoff] at ih ⊢
    exact dated_apply ih op

/-- From the failure on, no wait is longer than its delay, or thirty years. -/
theorem Health.Dated.nanos_wait_le {b : Backoff} {ops : List PoolOp} {h : Health} (hd : h.Dated b ops) {now : Instant}
    (hnow : ∀ op ∈ ops, ∀ t ∈ op.failedAt?, t ≤ now) :
    ∃ draw retries cap, (h.wait now).nanos ≤ max (b.delay draw retries cap).nanos farFuture.nanos := by
  cases hat : h.nextAvailableAt with
  | none =>
    refine ⟨0, 0, Duration.zero, ?_⟩
    simp only [wait, hat, Duration.nanos_zero]
    exact Nat.zero_le _
  | some free =>
    obtain ⟨op, hop, t, ht, draw, retries, cap, rfl⟩ := hd free hat
    refine ⟨draw, retries, cap, ?_⟩
    have hle := hnow op hop t ht
    have hend := backoffEnd_le_max t (b.delay draw retries cap)
    simp only [wait, hat, Instant.nanos_since]
    grind

/-! ## The longest delay -/

/-- Durations go beyond 64 bits of milliseconds. -/
theorem word_le_maxNanos : UInt64.size * 1000000 ≤ maxNanos := by decide +kernel

namespace Backoff
variable {b : Backoff}

theorem millis_withJitter_le (draw : Nat) (d : Duration) :
    (withJitter draw d).millis ≤ d.millis + (d.millis / 10 - 1) := by
  unfold withJitter
  dsimp only
  generalize hrange : min (d.millis / 10) (UInt64.size - 1) = range
  split
  · exact Nat.le_add_right _ _
  · rename_i hne
    have hdraw := Nat.mod_lt draw (Nat.pos_of_ne_zero hne)
    have hplus : (d.plus (Duration.ofMillis (draw % range))).nanos ≤ d.nanos + draw % range * 1000000 :=
      Nat.le_trans (Nat.min_le_left _ _) (Nat.add_le_add_left (Nat.min_le_left _ _) _)
    calc (d.plus (Duration.ofMillis (draw % range))).millis
      _ ≤ (d.nanos + draw % range * 1000000) / 1000000 := Nat.div_le_div_right hplus
      _ = d.millis + draw % range := Nat.add_mul_div_right _ _ (by decide)
      _ ≤ d.millis + (d.millis / 10 - 1) := by omega

/-- The last of the random numbers. -/
theorem nanos_withJitter_last {d : Duration} (h : 10 ≤ d.millis) (hfits : d.millis < UInt64.size) :
    (withJitter (d.millis / 10 - 1) d).nanos = min (d.nanos + (d.millis / 10 - 1) * 1000000) maxNanos := by
  have hrange : min (d.millis / 10) (UInt64.size - 1) = d.millis / 10 := by omega
  have hdraw : (d.millis / 10 - 1) % (d.millis / 10) = d.millis / 10 - 1 := Nat.mod_eq_of_lt (by omega)
  have hne : d.millis / 10 ≠ 0 := by omega
  have hextra : (d.millis / 10 - 1) * 1000000 ≤ maxNanos :=
    Nat.le_trans (Nat.mul_le_mul_right _ (by omega)) word_le_maxNanos
  simp only [withJitter, hrange, if_neg hne, hdraw, Duration.plus, Duration.ofMillis, Duration.nanos_ofNanos,
    Nat.min_eq_left hextra]

end Backoff

/-- The longest delay that the section allows, in milliseconds: doubled as often as failures are counted, and a tenth of
it if there is jitter. -/
def BackoffConfig.longestMillis (c : BackoffConfig) : Nat :=
  let doubled := c.initialDelayMs.toNat * Nat.pow 2 c.maxRetries.toNat
  if c.jitter then doubled + (doubled / 10 - 1) else doubled

namespace Config
variable {c : Config}

theorem maxRetries_of_isValid (hc : c.isValid = true) : c.policy.maxRetries ≤ 31 := by
  simp only [isValid, problems, List.isEmpty_iff, List.append_eq_nil_iff, BackoffConfig.problems] at hc
  have hretries := hc.1.2.1.2
  by_cases hlarge : maxRetriesLimit < c.backoff.maxRetries
  · rw [if_pos hlarge] at hretries
    cases hretries
  · exact UInt32.le_iff_toNat_le.1 (UInt32.not_lt.1 hlarge)

theorem nanos_initialDelay (c : Config) : c.policy.initialDelay.nanos = c.backoff.initialDelayMs.toNat * 1000000 := by
  have := c.backoff.initialDelayMs.toNat_lt
  refine Nat.min_eq_left ?_
  simp only [maxNanos, UInt64.size]
  omega

theorem millis_doubled_le (c : Config) (retries : Nat) :
    (c.policy.doubled retries).millis ≤ c.backoff.initialDelayMs.toNat * Nat.pow 2 c.backoff.maxRetries.toNat := by
  have hexp : min (min retries c.policy.maxRetries) 31 ≤ c.backoff.maxRetries.toNat :=
    Nat.le_trans (Nat.min_le_left _ _) (Nat.min_le_right _ _)
  have hnanos : (c.policy.doubled retries).nanos ≤
      c.backoff.initialDelayMs.toNat * Nat.pow 2 c.backoff.maxRetries.toNat * 1000000 :=
    calc (c.policy.doubled retries).nanos
      _ ≤ c.policy.initialDelay.nanos * Nat.pow 2 (min (min retries c.policy.maxRetries) 31) := Nat.min_le_left _ _
      _ ≤ c.policy.initialDelay.nanos * Nat.pow 2 c.backoff.maxRetries.toNat :=
        Nat.mul_le_mul_left _ (Nat.pow_le_pow_right Nat.two_pos hexp)
      _ = _ := by rw [nanos_initialDelay, Nat.mul_right_comm]
  exact Nat.div_le_of_le_mul (by rwa [Nat.mul_comm] at hnanos)

/-- No delay is longer than the longest one. -/
theorem millis_delay_le (c : Config) (draw retries : Nat) (cap : Duration) :
    (c.policy.delay draw retries cap).millis ≤ c.backoff.longestMillis := by
  have hdoubled := c.millis_doubled_le retries
  have hjitter := Backoff.millis_withJitter_le draw (c.policy.doubled retries)
  have hcap (d : Duration) : (Duration.least d cap).millis ≤ d.millis := by
    refine Nat.div_le_div_right ?_
    rw [Duration.nanos_least]
    exact Nat.min_le_left _ _
  refine Nat.le_trans (hcap _) ?_
  have hpolicy : c.policy.jitter = c.backoff.jitter := rfl
  unfold BackoffConfig.longestMillis
  dsimp only
  rw [hpolicy]
  split <;> omega

/-- Doubled as often as it can be, the delay is cut off only where durations end. -/
theorem nanos_doubled (hc : c.isValid = true) : (c.policy.doubled c.policy.maxRetries).nanos =
    min (c.backoff.initialDelayMs.toNat * Nat.pow 2 c.backoff.maxRetries.toNat * 1000000) maxNanos := by
  have hmax := maxRetries_of_isValid hc
  have hexp : min (min c.policy.maxRetries c.policy.maxRetries) 31 = c.backoff.maxRetries.toNat := by
    rw [Nat.min_self, Nat.min_eq_left hmax]
    rfl
  rw [Backoff.doubled, Duration.times, Duration.nanos_ofNanos, hexp, nanos_initialDelay, Nat.mul_right_comm]

/-- If the longest delay takes more than 64 bits, then so does some delay before its cap. -/
theorem exists_jittered (hc : c.isValid = true) (hlong : UInt64.size ≤ c.backoff.longestMillis) : ∃ draw,
    UInt64.size * 1000000 ≤ (if c.policy.jitter then Backoff.withJitter draw (c.policy.doubled c.policy.maxRetries)
      else c.policy.doubled c.policy.maxRetries).nanos := by
  have hdoubled := nanos_doubled hc
  have hpolicy : c.policy.jitter = c.backoff.jitter := rfl
  unfold BackoffConfig.longestMillis at hlong
  dsimp only at hlong
  generalize c.backoff.initialDelayMs.toNat * Nat.pow 2 c.backoff.maxRetries.toNat = doubled at hdoubled hlong
  by_cases hlarge : UInt64.size ≤ doubled
  · refine ⟨0, ?_⟩
    have hle : UInt64.size * 1000000 ≤ (c.policy.doubled c.policy.maxRetries).nanos := by
      rw [hdoubled]
      exact Nat.le_min.2 ⟨Nat.mul_le_mul_right _ hlarge, word_le_maxNanos⟩
    split
    · exact Nat.le_trans hle (Backoff.nanos_le_withJitter 0 _)
    · exact hle
  · -- only the jitter takes it so far, and it does so with the last of the random numbers
    split at hlong
    · rename_i hj
      have hnanos : (c.policy.doubled c.policy.maxRetries).nanos = doubled * 1000000 := by
        have hle := Nat.mul_le_mul_right 1000000 (Nat.le_of_lt (Nat.lt_of_not_le hlarge))
        rw [hdoubled, Nat.min_eq_left (Nat.le_trans hle word_le_maxNanos)]
      have hmillis : (c.policy.doubled c.policy.maxRetries).millis = doubled := by
        rw [Duration.millis, hnanos, Nat.mul_div_cancel _ (by decide)]
      have hlast := Backoff.nanos_withJitter_last (d := c.policy.doubled c.policy.maxRetries) (by omega) (by omega)
      refine ⟨doubled / 10 - 1, ?_⟩
      rw [if_pos (hpolicy.trans hj), ← hmillis, hlast, hnanos, hmillis]
      exact Nat.le_min.2 ⟨by omega, word_le_maxNanos⟩
    · exact absurd hlong hlarge

/-- Then there is a failure whose delay is as long as its cap of `2 ^ 64` milliseconds. -/
theorem exists_draw (hc : c.isValid = true) (hlong : UInt64.size ≤ c.backoff.longestMillis) : ∃ draw,
    (c.policy.delay draw c.policy.maxRetries (Duration.ofMillis UInt64.size)).nanos = UInt64.size * 1000000 := by
  obtain ⟨draw, hjittered⟩ := exists_jittered hc hlong
  have hcap : (Duration.ofMillis UInt64.size).nanos = UInt64.size * 1000000 := Nat.min_eq_left word_le_maxNanos
  refine ⟨draw, ?_⟩
  simp only [Backoff.delay, Duration.nanos_least, hcap]
  exact Nat.min_eq_right hjittered

end Config

/-! ## Failures at one instant -/

namespace Pool
variable {p : Pool} {ops : List PoolOp} {h : Handle} {m : Member}

/-- A history that is over at one instant, and in which the handle was given out: what it made of the node. -/
structure Failed (p : Pool) (ops : List PoolOp) (h : Handle) (m : Member) : Prop where
  orderly : p.Orderly ops
  handed : h ∈ p.handed ops
  instants : ∀ op ∈ ops, ∀ t ∈ op.failedAt?, t = 0
  member : (p.after ops).members[h.index]? = some m

/-- A further failure at this instant, on the same handle. -/
theorem Failed.again (hf : p.Failed ops h m) (draw : Nat) (cap : Duration) :
    p.Failed (.report h (.failed 0 draw cap) :: ops) h
      { m with health := m.health.charged p.backoff 0 draw cap } where
  orderly := ⟨hf.handed, hf.orderly⟩
  handed := hf.handed
  instants := List.forall_mem_cons.2 ⟨fun t ht => (Option.some.inj ht).symm, hf.instants⟩
  member := by
    rw [after, getElem?_report, hf.member, backoff_after]
    rfl

/-- As many failures as one likes are counted, up to the ceiling. -/
theorem exists_failed {connections : List Connection} {b : Backoff} (hp : ofConnections connections b = .ok p) (k : Nat) :
    ∃ ops h m, p.Failed ops h m ∧ m.health.retries = min k b.maxRetries := by
  obtain ⟨hmembers, -, hb⟩ := members_ofConnections hp
  induction k with
  | zero =>
    have hi : (p.get 0 ⟨0, none⟩).1.index < p.members.length := p.index_get_lt 0 ⟨0, none⟩
    refine ⟨[.get 0 ⟨0, none⟩], _, _, ⟨trivial, List.mem_singleton.2 rfl, ?_, List.getElem?_eq_getElem hi⟩, ?_⟩
    · exact List.forall_mem_singleton.2 nofun
    · simp only [hmembers, List.getElem_map, Nat.zero_min]
      rfl
  | succ k ih =>
    obtain ⟨ops, h, m, hf, hretries⟩ := ih
    refine ⟨_, h, _, hf.again 0 Duration.zero, ?_⟩
    show min (m.health.retries + 1) p.backoff.maxRetries = _
    rw [hretries, hb]
    omega

end Pool

/-- A backoff of `2 ^ 64` milliseconds in its first two milliseconds. -/
theorem Health.remainingMillis_wraps {h : Health} {delay : Duration} (hdelay : delay.nanos = UInt64.size * 1000000)
    (hat : h.nextAvailableAt = some (backoffEnd 0 delay)) : (h.wait 0).nanos = UInt64.size * 1000000 ∧
    h.remainingMillis 0 = 0 ∧ h.remainingMillis 1000000 = UInt64.size - 1 := by
  obtain rfl : delay = Duration.ofMillis UInt64.size := Duration.ext_nanos (hdelay.trans (by decide +kernel))
  simp only [remainingMillis, wait, hat]
  decide +kernel

/-- **The reported backoff.** Take a valid configuration, a new pool with its policy, and any history of it. The status of
a node is right at an instant, and from then on until something is reported on the node, iff its wait is less than `2 ^ 64`
milliseconds then. If the longest delay of the configuration is less, then all statuses are right from the last failure
on. If not, then there is a history, all of it at one instant, after which the status of a node says that it leaves its
backoff at once while it does so after `2 ^ 64` milliseconds, and the status a millisecond later says more. -/
theorem reported_backoff {c : Config} (hc : c.isValid = true) {connections : List Connection} {p : Pool}
    (hp : Pool.ofConnections connections c.policy = .ok p) :
    (∀ ops, ∀ m ∈ (p.after ops).members, ∀ now, m.health.Reported now ↔ (m.health.wait now).millis < UInt64.size) ∧
    (c.backoff.longestMillis < UInt64.size → ∀ ops now, (∀ op ∈ ops, ∀ t ∈ op.failedAt?, t ≤ now) →
      ∀ m ∈ (p.after ops).members, m.health.Reported now) ∧
    (UInt64.size ≤ c.backoff.longestMillis → ∃ ops, p.Orderly ops ∧ (∀ op ∈ ops, ∀ t ∈ op.failedAt?, t = 0) ∧
      ∃ m ∈ (p.after ops).members, (m.health.wait 0).nanos = UInt64.size * 1000000 ∧ m.health.remainingMillis 0 = 0 ∧
        m.health.remainingMillis 1000000 = UInt64.size - 1) := by
  refine ⟨fun ops m _ now => Health.reported_iff, fun hshort ops now hnow m hm => ?_, fun hlong => ?_⟩
  · obtain ⟨i, hi, rfl⟩ := List.getElem_of_mem hm
    have hdated := Pool.dated_after hp ops i _ (List.getElem?_eq_getElem hi)
    obtain ⟨draw, retries, cap, hwait⟩ := hdated.nanos_wait_le hnow
    have hdelay := c.millis_delay_le draw retries cap
    have hfar : Health.farFuture.nanos < UInt64.size * 1000000 := by decide +kernel
    rw [Health.reported_iff]
    unfold Duration.millis at hdelay ⊢
    omega
  · obtain ⟨draw, hdelay⟩ := Config.exists_draw hc hlong
    -- the delay is the longest after as many failures as are counted
    obtain ⟨ops, h, m, hf, hretries⟩ := Pool.exists_failed hp c.policy.maxRetries
    rw [Nat.min_self] at hretries
    rw [← hretries, ← (Pool.members_ofConnections hp).2.2] at hdelay
    have hlast := hf.again draw (Duration.ofMillis UInt64.size)
    exact ⟨_, hlast.orderly, hlast.instants, _, List.mem_of_getElem? hlast.member,
      Health.remainingMillis_wraps hdelay rfl⟩

/-- With 31 doublings, `2 ^ 33` milliseconds are the least initial delay that is too long. -/
theorem reported_backoff_doublings : ∃ (c c' : Config) (p p' : Pool),
    c.backoff.initialDelayMs.toNat = 8589934591 ∧ c'.backoff.initialDelayMs.toNat = 8589934592 ∧
    c.backoff.maxRetries = 31 ∧ c'.backoff.maxRetries = 31 ∧ c.isValid = true ∧ c'.isValid = true ∧
    Pool.ofConnections [⟨"http://a:9984", []⟩] c.policy = .ok p ∧
    Pool.ofConnections [⟨"http://a:9984", []⟩] c'.policy = .ok p' ∧
    (∀ ops now, (∀ op ∈ ops, ∀ t ∈ op.failedAt?, t ≤ now) → ∀ m ∈ (p.after ops).members, m.health.Reported now) ∧
    ∃ ops, p'.Orderly ops ∧ ∃ m ∈ (p'.after ops).members, ¬ m.health.Reported 0 := by
  let c (initial : UInt64) : Config := { Config.standard with backoff := ⟨initial, 31, 10, false⟩ }
  have hvalid : (c 8589934591).isValid = true := by decide +kernel
  have hvalid' : (c 8589934592).isValid = true := by decide +kernel
  let p (b : Backoff) : Pool := ⟨[⟨⟨"http://a:9984", []⟩, Health.fresh⟩], List.cons_ne_nil _ _, 0, b⟩
  have hp : Pool.ofConnections [⟨"http://a:9984", []⟩] (c 8589934591).policy = .ok (p _) := rfl
  have hp' : Pool.ofConnections [⟨"http://a:9984", []⟩] (c 8589934592).policy = .ok (p _) := rfl
  obtain ⟨-, hshort, -⟩ := reported_backoff hvalid hp
  obtain ⟨hiff, -, hlong⟩ := reported_backoff hvalid' hp'
  obtain ⟨ops, hops, -, m, hm, hwait, -⟩ := hlong (by decide +kernel)
  refine ⟨_, _, _, _, rfl, rfl, rfl, rfl, hvalid, hvalid', hp, hp', hshort (by decide +kernel), ops, hops, m, hm, ?_⟩
  rw [hiff ops m hm, Duration.millis, hwait]
  decide

/-- A cap and an initial delay beyond all use. After two failures the backoff of the node takes one bit too many: its
status says that the node is free at once, and a millisecond later that it stays in backoff for ever. -/
theorem reported_backoff_wraps : ∃ (c : Config) (p : Pool) (h : Handle) (m : Member), c.isValid = true ∧
    Pool.ofConnections [⟨"http://a:9984", []⟩] c.policy = .ok p ∧
    let failure : PoolOp := .report h (.failed 0 0 (c.policy.capFor ⟨0, none⟩))
    p.Orderly [failure, failure, .get 0 ⟨0, none⟩] ∧
    (p.after [failure, failure, .get 0 ⟨0, none⟩]).members = [m] ∧
    (m.health.wait 0).millis = UInt64.size ∧ m.health.remainingMillis 0 = 0 ∧
    m.health.remainingMillis 1000000 = UInt64.size - 1 := by
  let c : Config := { Config.standard with backoff := ⟨9223372036854775808, 10, 18446744073709551615, false⟩ }
  let p : Pool := ⟨[⟨⟨"http://a:9984", []⟩, Health.fresh⟩], List.cons_ne_nil _ _, 0, c.policy⟩
  refine ⟨c, p, (p.get 0 ⟨0, none⟩).1, _, by decide +kernel, rfl, ?_, rfl, ?_⟩
  · exact ⟨List.mem_singleton.2 rfl, List.mem_singleton.2 rfl, trivial⟩
  · decide +kernel

end FederatedLedger
