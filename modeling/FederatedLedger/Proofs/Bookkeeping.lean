import FederatedLedger.Proofs.History

/-!
# What the health of a node says

The health of a node is decided by the reports on it, and by no others: `PoolOp.failures` are its failures since its
last answer, and `Health.Follows` says that the health counts them up to the ceiling and that the backoff ends with
the delay of the latest one. `follows_after` carries this through any history of a pool. Without jitter the end is
exact (`Health.Records`). The delay is the exact product then, cut at the cap: what a duration cannot hold is cut off
by the cap anyway (`Backoff.nanos_delay`), and the count that stops at the ceiling gives the same power of two as the
true one.
-/

namespace FederatedLedger

/-- The failures of the node at `i` since its last answer, the latest first: when each was noted, and its cap. -/
def PoolOp.failures (i : Nat) : List PoolOp → List (Instant × Duration)
  | [] => []
  | .get _ _ :: ops => failures i ops
  | .report h f :: ops =>
    if h.index = i then
      match f with
      | .answered => []
      | .failed now _ cap => (now, cap) :: failures i ops
    else failures i ops

/-- A failure that counts for the node was reported in the history. -/
theorem PoolOp.mem_of_mem_failures {i : Nat} {x : Instant × Duration} {ops : List PoolOp} (hx : x ∈ failures i ops) :
    ∃ op ∈ ops, x.1 ∈ op.failedAt? := by
  induction ops with
  | nil => cases hx
  | cons op ops ih =>
    have hearlier : x ∈ failures i ops → ∃ op' ∈ op :: ops, x.1 ∈ op'.failedAt? := fun hx =>
      let ⟨op', hop, ht⟩ := ih hx
      ⟨op', List.mem_cons_of_mem _ hop, ht⟩
    cases op with
    | get now d => exact hearlier hx
    | report h f =>
      simp only [failures] at hx
      split at hx
      · cases f with
        | answered => cases hx
        | failed now draw cap =>
          rcases List.mem_cons.1 hx with rfl | hx
          · exact ⟨_, List.mem_cons_self, rfl⟩
          · exact hearlier hx
      · exact hearlier hx

namespace Backoff

/-- The delay after a failure of a node that failed `k` times in a row before, in nanoseconds. -/
def exactDelay (b : Backoff) (k : Nat) (cap : Duration) : Nat :=
  min cap.nanos (b.initialDelay.nanos * Nat.pow 2 (min k (min b.maxRetries 31)))

/-- When the backoff ends that these failures lead to: the delay of the latest one after it, or 30 times 365
days where that instant does not exist. -/
def exactEnd? (b : Backoff) : List (Instant × Duration) → Option Instant
  | [] => none
  | (now, cap) :: before =>
    let delay := b.exactDelay before.length cap
    some (if now + delay < Instant.bound then now + delay else now + 30 * 365 * 86400 * 1000000000)

/-- The cap hides where durations end, and the ceiling of the count where it stops. -/
theorem nanos_delay {b : Backoff} (hj : b.jitter = false) (draw k : Nat) (cap : Duration) :
    (b.delay draw (min k b.maxRetries) cap).nanos = b.exactDelay k cap := by
  have hexp : min (min (min k b.maxRetries) b.maxRetries) 31 = min k (min b.maxRetries 31) := by omega
  have hcap := cap.nanos_le
  simp only [delay, hj, Bool.false_eq_true, if_false, Duration.nanos_least, doubled, Duration.times,
    Duration.nanos_ofNanos, hexp, exactDelay]
  omega

end Backoff

namespace Health
variable {b : Backoff} {h : Health} {now : Instant} {failures : List (Instant × Duration)}

theorem nanos_farFuture : (farFuture.nanos : Int) = 30 * 365 * 86400 * 1000000000 := by decide +kernel

/-- Where thirty years later is an instant, a backoff ends after its delay or after thirty years. -/
theorem backoffEnd_eq (hfar : (now.add? farFuture).isSome = true) (delay : Duration) : backoffEnd now delay =
    if now + delay.nanos < Instant.bound then now + delay.nanos else now + 30 * 365 * 86400 * 1000000000 := by
  obtain ⟨far, hfar⟩ := Option.isSome_iff_exists.1 hfar
  obtain ⟨-, hsum⟩ := Instant.add?_eq_some_iff.1 hfar
  rw [nanos_farFuture] at hsum
  unfold backoffEnd
  rw [hfar, hsum]
  unfold Instant.add?
  split <;> rfl

/-- Where the backoff can end that these failures lead to: after the delay of the latest one, whatever was drawn. -/
def EndsAt (b : Backoff) : List (Instant × Duration) → Option Instant → Prop
  | [], free => free = none
  | (now, cap) :: before, free =>
    ∃ draw, free = some (backoffEnd now (b.delay draw (min before.length b.maxRetries) cap))

/-- The health counts these failures since the last answer, and ends the backoff of the latest one. -/
structure Follows (b : Backoff) (failures : List (Instant × Duration)) (h : Health) : Prop where
  retries : h.retries = min failures.length b.maxRetries
  ends : EndsAt b failures h.nextAvailableAt

theorem follows_fresh (b : Backoff) : fresh.Follows b [] := ⟨(Nat.zero_min _).symm, rfl⟩

/-- A further failure is counted, and sets the end. -/
theorem Follows.charged (hf : h.Follows b failures) (now : Instant) (draw : Nat) (cap : Duration) :
    (h.charged b now draw cap).Follows b ((now, cap) :: failures) where
  retries := by
    show min (h.retries + 1) b.maxRetries = _
    rw [hf.retries, List.length_cons]
    omega
  ends := ⟨draw, by rw [← hf.retries]; rfl⟩

/-- The health is what these failures since the last answer come to without jitter. -/
structure Records (b : Backoff) (failures : List (Instant × Duration)) (h : Health) : Prop where
  retries : h.retries = min failures.length b.maxRetries
  nextAvailableAt : h.nextAvailableAt = b.exactEnd? failures

/-- Without jitter nothing is drawn. -/
theorem Follows.records (hf : h.Follows b failures) (hj : b.jitter = false)
    (hfar : ∀ x ∈ failures, (x.1.add? farFuture).isSome = true) : h.Records b failures where
  retries := hf.retries
  nextAvailableAt := by
    have hends := hf.ends
    cases failures with
    | nil => exact hends
    | cons latest before =>
      obtain ⟨now, cap⟩ := latest
      obtain ⟨draw, hends⟩ := hends
      rw [hends, backoffEnd_eq (hfar _ List.mem_cons_self), Backoff.nanos_delay hj]
      rfl

/-- The delay of a further failure, from the health alone. -/
theorem Records.nanos_delay (hr : h.Records b failures) (hj : b.jitter = false) (draw : Nat) (cap : Duration) :
    (b.delay draw h.retries cap).nanos = b.exactDelay failures.length cap := by
  rw [hr.retries, Backoff.nanos_delay hj]

end Health

namespace Pool
variable {p : Pool} {ops : List PoolOp} {op : PoolOp}

/-- The health of every node follows the reports on it. -/
def Follows (p : Pool) (ops : List PoolOp) : Prop :=
  ∀ i (m : Member), p.members[i]? = some m → m.health.Follows p.backoff (PoolOp.failures i ops)

/-- The node that an operation reports on takes note of it, every other node stays. -/
theorem Follows.apply (hp : p.Follows ops) (op : PoolOp) : (p.apply op).Follows (op :: ops) := by
  intro i m hm
  rw [backoff_apply]
  cases op with
  | get now d => exact hp i m hm
  | report handle f =>
    simp only [PoolOp.failures]
    by_cases hi : handle.index = i
    · subst hi
      rw [getElem?_report] at hm
      obtain ⟨m', hm', rfl⟩ := Option.map_eq_some_iff.1 hm
      rw [if_pos rfl]
      cases f with
      | answered => exact Health.follows_fresh _
      | failed now draw cap => exact (hp _ m' hm').charged now draw cap
    · rw [if_neg hi]
      refine hp i m ?_
      rwa [p.getElem?_apply (.report handle f) fun he => hi (Option.some.inj he)] at hm

theorem follows_after {connections : List Connection} {b : Backoff} (hp : ofConnections connections b = .ok p)
    (ops : List PoolOp) : (p.after ops).Follows ops := by
  induction ops with
  | nil =>
    intro i m hm
    simp only [after, (members_ofConnections hp).1, List.getElem?_map, Option.map_eq_some_iff] at hm
    obtain ⟨c, -, rfl⟩ := hm
    exact Health.follows_fresh _
  | cons op ops ih => exact ih.apply op

/-- The health of every node is what the reports on it come to without jitter. -/
def Records (p : Pool) (ops : List PoolOp) : Prop :=
  ∀ i (m : Member), p.members[i]? = some m → m.health.Records p.backoff (PoolOp.failures i ops)

theorem records_after {connections : List Connection} {b : Backoff} (hp : ofConnections connections b = .ok p)
    (hj : b.jitter = false)
    (hfar : ∀ op ∈ ops, ∀ now ∈ op.failedAt?, (now.add? Health.farFuture).isSome = true) :
    (p.after ops).Records ops := by
  intro i m hm
  refine (follows_after hp ops i m hm).records ?_ fun x hx => ?_
  · rw [backoff_after, (members_ofConnections hp).2.2]
    exact hj
  · obtain ⟨op, hop, ht⟩ := PoolOp.mem_of_mem_failures hx
    exact hfar op hop _ ht

/-- What a further report of a failure gives back. -/
theorem Records.nanos_penalty (hp : p.Records ops) (hj : p.backoff.jitter = false) {i : Nat} (hi : i < p.size)
    (now : Instant) (draw : Nat) (cap : Duration) : (p.failed now draw i cap).1.delay.nanos =
      p.backoff.exactDelay (PoolOp.failures i ops).length cap := by
  have hm : p.members[i]? = some p.members[i] := List.getElem?_eq_getElem hi
  simp only [failed, hm]
  exact (hp i _ hm).nanos_delay hj draw cap

end Pool

/-- **Health is what the reports say.** Take a new pool without jitter, and any history of it, its failures at
instants from which thirty years later still exists. The nodes are the same, in the same order. Each of them
counts its failures since its last answer, up to the ceiling, and is in backoff, until the delay of the latest
one is over, iff there was one. A further failure, reported on whichever handle that was given out, gives back
the exact delay, never above its cap. An operation leaves the nodes alone that it does not report on. -/
theorem health_follows_reports {connections : List Connection} {b : Backoff} {p : Pool}
    (hp : Pool.ofConnections connections b = .ok p) (hj : b.jitter = false) {ops : List PoolOp}
    (hfar : ∀ op ∈ ops, ∀ now ∈ op.failedAt?, (now.add? Health.farFuture).isSome = true) :
    (p.after ops).members.map Member.connection = connections ∧
    (∀ i (m : Member), (p.after ops).members[i]? = some m →
      m.health.retries = min (PoolOp.failures i ops).length b.maxRetries ∧
      m.health.nextAvailableAt = b.exactEnd? (PoolOp.failures i ops)) ∧
    (∀ h ∈ p.handed ops, ∀ now draw cap,
      ((p.after ops).failed now draw h.index cap).1.delay.nanos =
        b.exactDelay (PoolOp.failures h.index ops).length cap ∧
      ((p.after ops).failed now draw h.index cap).1.delay ≤ cap) ∧
    (∀ op i, op.subject? ≠ some i → ((p.after ops).apply op).members[i]? = (p.after ops).members[i]?) := by
  obtain ⟨hmembers, -, hb⟩ := Pool.members_ofConnections hp
  have hrecords := Pool.records_after hp hj hfar
  have hbackoff : (p.after ops).backoff = b := by rw [Pool.backoff_after, hb]
  refine ⟨?_, fun i m hm => ?_, fun h hh now draw cap => ?_, fun op i => Pool.getElem?_apply _ op⟩
  · rw [Pool.connections_after, hmembers, List.map_map]
    exact List.map_id _
  · have := hrecords i m hm
    rw [hbackoff] at this
    exact ⟨this.retries, this.nextAvailableAt⟩
  · have hi : h.index < (p.after ops).size := by
      rw [Pool.size_after]; exact p.index_lt_of_mem_handed ops hh
    have hdelay := hrecords.nanos_penalty (by rw [hbackoff]; exact hj) hi now draw cap
    rw [hbackoff] at hdelay
    refine ⟨hdelay, ?_⟩
    rw [Duration.le_iff, hdelay]
    exact Nat.min_le_left _ _

/-- The first of two nodes fails three times in a row, at last on an old handle after the other node answered.
Its count stops at the ceiling of two. -/
theorem health_follows_reports_pair : ∃ p ops,
    Pool.ofConnections [⟨"http://a:9984", []⟩, ⟨"http://b:9984", []⟩]
      ⟨Duration.ofMillis 500, 2, Duration.ofSecs 10, false⟩ = .ok p ∧
    p.Orderly ops ∧ (PoolOp.failures 0 ops).length = 3 ∧
    ∃ m, (p.after ops).members[0]? = some m ∧ m.health.retries = 2 ∧ m.health.nextAvailableAt = some 5000000000 := by
  let b : Backoff := ⟨Duration.ofMillis 500, 2, Duration.ofSecs 10, false⟩
  let p : Pool := ⟨[⟨⟨"http://a:9984", []⟩, Health.fresh⟩, ⟨⟨"http://b:9984", []⟩, Health.fresh⟩],
    List.cons_ne_nil _ _, 0, b⟩
  have hp : Pool.ofConnections [⟨"http://a:9984", []⟩, ⟨"http://b:9984", []⟩] b = .ok p := rfl
  let failure (now : Instant) : Feedback := .failed now 0 (Duration.ofSecs 60)
  let first := (p.get 0 ⟨0, none⟩).1
  let early : List PoolOp := [.report first (failure 0), .get 0 ⟨0, none⟩]
  let second := ((p.after early).get 0 ⟨0, none⟩).1
  let ops : List PoolOp := [.report first (failure 3000000000), .report first (failure 1000000000),
    .report second .answered, .get 0 ⟨0, none⟩] ++ early
  have hops : p.Orderly ops := by
    have hfirst : first ∈ [second, first] := by simp
    have hsecond : second ∈ [second, first] := by simp
    have hearly : first ∈ [first] := by simp
    exact ⟨hfirst, hfirst, hsecond, hearly, trivial⟩
  have hfar : ∀ op ∈ ops, ∀ now ∈ op.failedAt?, (now.add? Health.farFuture).isSome = true := by decide +kernel
  obtain ⟨-, hhealth, -⟩ := health_follows_reports hp rfl hfar
  have hm : ∃ m, (p.after ops).members[0]? = some m := Option.isSome_iff_exists.1 (by decide +kernel)
  obtain ⟨m, hm⟩ := hm
  obtain ⟨hretries, hend⟩ := hhealth 0 m hm
  have hcount : (PoolOp.failures 0 ops).length = 3 := by decide +kernel
  have hnow : b.exactEnd? (PoolOp.failures 0 ops) = some 5000000000 := by decide +kernel
  rw [hcount] at hretries
  exact ⟨p, ops, hp, hops, hcount, m, hm, hretries, hend.trans hnow⟩

end FederatedLedger
