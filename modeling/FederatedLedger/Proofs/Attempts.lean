import FederatedLedger.Proofs.Availability
import FederatedLedger.Proofs.Outcome
import Mathlib.Algebra.BigOperators.Group.Finset.Basic
import Mathlib.Algebra.Order.BigOperators.Group.Finset
import Mathlib.Algebra.Order.Floor.Div

/-!
# How many attempts a call makes

A call with a budget ends, even if its attempts fail at once: what keeps it from trying the same nodes for ever is
the backoff that it gives them. Each failure keeps its node out of use for the initial delay, or for half the budget
if that is less, and no node is used in backoff. So a node that was tried `k` times cannot be used before `k` such
delays have gone by since the start (`Progress.Paced`), whatever became of the others. This bounds the attempts on each
node, hence all attempts, hence the turns of the call (`forward_attempts_le`).
-/

namespace FederatedLedger

variable {σ : Type}

/-- Every attempt whose time is limited comes to an end. -/
def Network.Ends (network : Network σ) : Prop :=
  ∀ s now out r, (network.send s now out (some r)).isSome = true

/-- Scripted nodes let every attempt end whose time is limited. -/
theorem Script.network_ends : Script.network.Ends := by
  intro s now out r
  show ((s.next out.url.nodeKey).1.exchange (some r) |>.map fun x => (x, (s.next out.url.nodeKey).2)).isSome = true
  rw [Option.isSome_map]
  unfold ScriptStep.exchange
  split
  · rfl
  · split <;> rfl

theorem Opening.attempt_isSome {w : World σ} (hw : w.network.Ends) {o : Opening} {r : Duration} (hb : o.budget = some r)
    (n : σ) (request : Request) : ∃ a n', o.attempt w n request = some (a, n') := by
  unfold attempt Attempt.run
  split
  · exact ⟨_, _, rfl⟩
  · rename_i out _
    obtain ⟨x, hx⟩ := Option.isSome_iff_exists.1 (hw n o.started out r)
    rw [hb, hx]
    exact ⟨_, _, rfl⟩

/-! ## Delays -/

/-- No delay is shorter than the initial one, but for the cap. -/
theorem Backoff.nanos_least_le_delay (b : Backoff) (draw k : Nat) (cap : Duration) :
    (Duration.least b.initialDelay cap).nanos ≤ (b.delay draw k cap).nanos := by
  have hdoubled : b.initialDelay.nanos ≤ (b.doubled k).nanos :=
    Nat.le_min.2 ⟨Nat.le_mul_of_pos_right _ (Nat.pow_pos (by decide)), b.initialDelay.nanos_le⟩
  simp only [delay, Duration.nanos_least]
  split
  · have := nanos_le_withJitter draw (b.doubled k)
    omega
  · omega

/-- A wait that is not cut off reaches to the end of the backoff. -/
theorem Health.le_of_wait_lt {h : Health} {now free : Instant} (hfree : h.nextAvailableAt = some free)
    (hlt : (h.wait now).nanos < maxNanos) : free ≤ now + (h.wait now).nanos := by
  simp only [wait, hfree, Instant.nanos_since] at hlt ⊢
  grind

/-! ## Counting attempts -/

namespace Attempt

/-- How often the node at `i` was tried. -/
def tries (i : Nat) (attempts : List Attempt) : Nat := (attempts.map index).count i

theorem tries_cons (i : Nat) (a : Attempt) (attempts : List Attempt) :
    tries i (a :: attempts) = tries i attempts + if a.index = i then 1 else 0 := by
  simp [tries, List.count_cons]

/-- The attempts are on `n` nodes, and at most `most` are on the same one. -/
structure Spread (n most : Nat) (attempts : List Attempt) : Prop where
  index_lt : ∀ a ∈ attempts, a.index < n
  tries_le : ∀ i, tries i attempts ≤ most

theorem Spread.length_le {n most : Nat} {attempts : List Attempt} (h : Spread n most attempts) :
    attempts.length ≤ n * most := by
  have hnodes : (attempts.map index).toFinset ⊆ Finset.range n := by
    intro i hi
    obtain ⟨a, ha, rfl⟩ := List.mem_map.1 (List.mem_toFinset.1 hi)
    exact Finset.mem_range.2 (h.index_lt a ha)
  calc attempts.length
    _ = ∑ i ∈ (attempts.map index).toFinset, tries i attempts := by
      rw [← List.length_map (f := index), ← List.sum_toFinset_count_eq_length]; rfl
    _ ≤ ∑ i ∈ Finset.range n, tries i attempts := Finset.sum_le_sum_of_subset hnodes
    _ ≤ (Finset.range n).card • most := Finset.sum_le_card_nsmul _ _ _ fun i _ => h.tries_le i
    _ = n * most := by rw [Finset.card_range, smul_eq_mul]

end Attempt

namespace Progress
variable {w : World σ} {c : Call} {s p q : Progress σ} {o : Opening} {a : Attempt} {T d : Nat}

/-- The backoffs that the call gives from `s` on end at instants that exist. -/
def BackoffsEnd (w : World σ) (c : Call) (s : Progress σ) : Prop :=
  ∀ p o a q e, Reaches w c s p → Tried w c p o a q → a.result = .error e →
    e.isNodeFailure c.retryUnavailable = true → ∀ m, p.pool.members[a.index]? = some m →
    (a.finished.add? (p.pool.backoff.delay (w.draw (p.attempts.length + 1)) m.health.retries c.cap)).isSome = true

/-- A call that starts from `s` with a budget of `T`, no backoff of which is shorter than `d`. -/
structure Limits (w : World σ) (c : Call) (s : Progress σ) (T d : Nat) : Prop where
  exact : w.Exact
  fresh : s.attempts = []
  begins : c.deadline.started ≤ s.now
  ends : c.deadline.notAfter = some (c.deadline.started + T)
  pos : 0 < d
  delay_ge : d ≤ (Duration.least s.pool.backoff.initialDelay c.cap).nanos
  backoffsEnd : BackoffsEnd w c s

/-- A node that was tried `k` times is in backoff until `k` delays of `d` have gone by since the start, and was tried
no more often than the budget has room for such delays. -/
structure Paced (c : Call) (s : Progress σ) (T d : Nat) (p : Progress σ) : Prop where
  size : p.pool.size = s.pool.size
  backoff : p.pool.backoff = s.pool.backoff
  spread : Attempt.Spread s.pool.size (T ⌈/⌉ d) p.attempts
  delayed : ∀ i (m : Member), p.pool.members[i]? = some m → Attempt.tries i p.attempts = 0 ∨
    ∃ free, m.health.nextAvailableAt = some free ∧ c.deadline.started + (Attempt.tries i p.attempts * d : Nat) ≤ free

theorem Limits.paced_start (hl : Limits w c s T d) : Paced c s T d s where
  size := rfl
  backoff := rfl
  spread := ⟨by simp [hl.fresh], by simp [hl.fresh, Attempt.tries]⟩
  delayed _ _ _ := .inl (by simp [hl.fresh, Attempt.tries])

theorem Limits.started_le (hl : Limits w c s T d) (h : Reaches w c s p) : c.deadline.started ≤ p.now :=
  Int.le_trans hl.begins (h.now_le hl.exact)

/-- The node of an attempt has been through all the delays that it was given. -/
theorem Limits.opening (hl : Limits w c s T d) (hreach : Reaches w c s p) (hp : Paced c s T d p)
    (ho : p.opening? w c = some o) :
    c.deadline.started + (Attempt.tries o.handle.index p.attempts * d : Nat) ≤ o.started ∧
      o.started < c.deadline.started + T := by
  have hnow := hl.started_le hreach
  have hlive : o.started < c.deadline.started + T := (keepsTo_of_opening hl.exact hl.ends hnow ho).1
  refine ⟨?_, hlive⟩
  obtain ⟨-, -, hh, -, hst, -⟩ := opening?_eq_some_iff.1 ho
  obtain ⟨m, hm, -, hwait⟩ := p.pool.get_member p.now c.deadline
  rw [← hh] at hm hwait
  rw [hl.exact.wake, hwait] at hst
  rcases hp.delayed _ m hm with hzero | ⟨free, hfree, hle⟩
  · rw [hzero]
    grind
  · -- the wait reaches to the end of the backoff, and was slept through
    have hend := (Deadline.notAfter_le hl.ends).2
    have hshort : (m.health.wait p.now).nanos < maxNanos := by grind
    have := Health.le_of_wait_lt hfree hshort
    grind

/-- There is room for one more attempt on the node that is tried. -/
theorem Limits.spread_tried (hl : Limits w c s T d) (hreach : Reaches w c s p) (hp : Paced c s T d p)
    (ht : Tried w c p o a q) : Attempt.Spread s.pool.size (T ⌈/⌉ d) q.attempts := by
  have hroom : Attempt.tries a.index p.attempts < T ⌈/⌉ d := by
    obtain ⟨hle, hlt⟩ := hl.opening hreach hp ht.opening
    rw [← ht.index] at hle
    by_contra hmost
    have hfull := (ceilDiv_le_iff_le_mul hl.pos).1 (Nat.le_of_not_lt hmost)
    rw [Nat.mul_comm] at hfull
    grind
  rw [ht.attempts]
  constructor
  · rw [List.forall_mem_cons]
    refine ⟨?_, hp.spread.index_lt⟩
    rw [ht.index, ht.handle, ← hp.size]
    exact p.pool.index_get_lt p.now c.deadline
  · intro i
    rw [Attempt.tries_cons]
    split
    · rename_i hi
      subst hi
      exact hroom
    · exact hp.spread.tries_le i

/-- A failure puts the node into backoff for another delay, and leaves the others as they are. -/
theorem Limits.tried {e : RequestError} (hl : Limits w c s T d) (hreach : Reaches w c s p) (hp : Paced c s T d p)
    (ht : Tried w c p o a q) (hr : a.result = .error e) (hf : e.isNodeFailure c.retryUnavailable = true) :
    Paced c s T d q := by
  have hpool : q.pool = ((p.pool.get p.now c.deadline).2.failed a.finished (w.draw (p.attempts.length + 1)) a.index
      c.cap).2 := by rw [ht.pool, Pool.noteAttempt_of_failure hr hf]
  refine ⟨?_, ?_, hl.spread_tried hreach hp ht, fun i m hm => ?_⟩
  · rw [hpool, Pool.size_failed, Pool.size_get, hp.size]
  · rw [hpool, Pool.backoff_failed, Pool.backoff_get, hp.backoff]
  rw [hpool, Pool.members_failed, Pool.members_get, List.getElem?_modify] at hm
  obtain ⟨m', hm', rfl⟩ := Option.map_eq_some_iff.1 hm
  rw [ht.attempts, Attempt.tries_cons]
  split
  · -- the node that was tried: it had been through its delays, and this is one more
    rename_i hi
    subst hi
    obtain ⟨free, hfree⟩ := Option.isSome_iff_exists.1 (hl.backoffsEnd p o a q e hreach ht hr hf m' hm')
    have hend := (Instant.add?_eq_some_iff.1 hfree).2
    refine .inr ⟨free, by simp [Health.charged, Health.failed, Health.backoffEnd, hfree], ?_⟩
    obtain ⟨-, -, -, hst, -, hfin⟩ := Opening.attempt_fields ht.attempt
    obtain ⟨hle, -⟩ := hl.opening hreach hp ht.opening
    have hlong := s.pool.backoff.nanos_least_le_delay (w.draw (p.attempts.length + 1)) m'.health.retries c.cap
    have hdelay := hl.delay_ge
    rw [← ht.index] at hle
    rw [hp.backoff] at hend
    rw [Nat.add_mul, Nat.one_mul]
    grind
  · simpa using hp.delayed i m' hm'

theorem Limits.paced (hl : Limits w c s T d) (h : Reaches w c s p) : Paced c s T d p :=
  h.invariant hl.paced_start fun _ _ _ _ _ hreach hp ht hr hf _ => hl.tried hreach hp ht hr hf

/-- The backoffs end if a prompt call ends so early that its longest backoff still fits. -/
theorem backoffsEnd_of_prompt (hw : w.Exact) (hn : w.network.Prompt) {e : Instant} (he : c.deadline.notAfter = some e)
    (hs : s.now = c.deadline.started) (hroom : e + c.cap.nanos < Instant.bound) : BackoffsEnd w c s := by
  intro p o a q err hreach ht _ _ m _
  have hle : a.finished ≤ e := by
    rw [← ht.now]
    exact ht.now_le_end hw hn he (hs ▸ hreach.now_le hw)
  have hcap := p.pool.backoff.nanos_delay_le (w.draw (p.attempts.length + 1)) m.health.retries c.cap
  rw [Option.isSome_iff_exists]
  exact ⟨_, Instant.add?_eq_some_iff.2 ⟨by grind, rfl⟩⟩

/-- The induction is on the turns: each of them that does not end the call makes an attempt, and for attempts there
is only so much room. -/
theorem Limits.run (hl : Limits w c s T d) (hends : w.network.Ends) : ∀ (turns : Nat) (p : Progress σ),
    Reaches w c s p → s.pool.size * (T ⌈/⌉ d) < p.attempts.length + turns →
    ∃ result q, Progress.run w c turns p = some (result, q) ∧ q.attempts.length ≤ s.pool.size * (T ⌈/⌉ d)
  | 0, p, hreach, hlt => by
    have := (hl.paced hreach).spread.length_le
    omega
  | turns + 1, p, hreach, hlt => by
    have hp := hl.paced hreach
    cases ho : p.opening? w c with
    | none =>
      obtain ⟨q, hq, -, -, hatt, -⟩ := step_of_no_opening ho
      refine ⟨.error (.timeout p.errors.reverse), q, by simp only [Progress.run, hq], ?_⟩
      rw [hatt]
      exact hp.spread.length_le
    | some o =>
      obtain ⟨-, left, hb, -⟩ := keepsTo_of_opening hl.exact hl.ends (hl.started_le hreach) ho
      obtain ⟨a, n, ha⟩ := o.attempt_isSome hends hb p.network c.request
      rcases failure_or_verdict c.retryUnavailable a with ⟨e, hr, hf⟩ | ⟨result, hv⟩
      · obtain ⟨q, hq, ht, -⟩ := step_of_failure ho ha hr hf
        have hlt' : s.pool.size * (T ⌈/⌉ d) < q.attempts.length + turns := by
          rw [ht.attempts, List.length_cons]
          omega
        obtain ⟨result, q', hrun, hlen⟩ := Limits.run hl hends turns q (hreach.tail hq) hlt'
        exact ⟨result, q', by simp only [Progress.run, hq, hrun], hlen⟩
      · obtain ⟨q, hq, ht⟩ := step_of_verdict ho ha hv
        exact ⟨result, q, by simp only [Progress.run, hq], (hl.spread_tried hreach hp ht).length_le⟩

end Progress

/-- **A call makes so many attempts and no more.** If its budget `T` ends at an instant, and the shortest backoff
that it can give is `d`, then it ends after at most `T / d` attempts for each node of the pool, rounded up, whatever
the state of the nodes is at first and however fast the attempts fail. -/
theorem forward_attempts_le {w : World σ} (hw : w.Exact) (hends : w.network.Ends) (t : Transport)
    (request : Request) (now : Instant) (network : σ) {T : Duration} {e : Instant} {d : Nat}
    (hT : request.timeout.or t.timeout = some T) (he : now.add? T = some e)
    (hd : d = (Duration.least t.pool.backoff.initialDelay T.half).nanos) (hpos : 0 < d)
    (hback : Progress.BackoffsEnd w (t.call request now) (t.start w now network)) :
    ∀ turns, t.pool.size * (T.nanos ⌈/⌉ d) < turns → ∃ out, t.forward w turns request now network = some out ∧
      out.attempts.length ≤ t.pool.size * (T.nanos ⌈/⌉ d) := by
  intro turns hturns
  have hlimits : Progress.Limits w (t.call request now) (t.start w now network) T.nanos d := by
    refine ⟨hw, rfl, Int.le_of_eq (t.start_now hw now network).symm, ?_, hpos, ?_, hback⟩
    · rw [t.notAfter_call, hT, Option.bind_some, he]
      exact congrArg some (Instant.add?_eq_some_iff.1 he).2.symm
    · have hcap : (t.call request now).cap = T.half := by
        simp only [Transport.call, Backoff.capFor, hT]
      rw [hcap, hd]
      exact Nat.le_refl _
  obtain ⟨result, q, hrun, hlen⟩ := hlimits.run hends turns (t.start w now network) .refl
    (by simpa [Transport.start] using hturns)
  refine ⟨_, by rw [Transport.forward, hrun]; rfl, ?_⟩
  rw [List.length_reverse]
  exact hlen

/-- Both nodes drop every connection at once. The call makes as many attempts as it may: it tries each of the nodes
at the start, and once more after half a second. -/
theorem forward_attempts_le_pair : ∃ out,
    (Transport.pair Health.fresh Health.fresh (some (Duration.ofSecs 1)) false).forward
      (World.exact Script.network) 5 Request.get 0 (Script.pair (0, .drop) (0, .drop)) = some out ∧
    out.attempts.length = 4 ∧ out.attempts.length ≤ 2 * ((1000000000 : Nat) ⌈/⌉ (500000000 : Nat)) := by
  let w := World.exact Script.network
  let t := Transport.pair Health.fresh Health.fresh (some (Duration.ofSecs 1)) false
  let script := Script.pair (0, .drop) (0, .drop)
  have hend : (0 : Instant).add? (Duration.ofSecs 1) = some 1000000000 := by decide +kernel
  have hback : Progress.BackoffsEnd w (t.call Request.get 0) (t.start w 0 script) :=
    Progress.backoffsEnd_of_prompt (World.exact_exact _) Script.network_prompt hend rfl (by decide +kernel)
  obtain ⟨out, h, hle⟩ := forward_attempts_le (World.exact_exact Script.network) Script.network_ends t Request.get 0
    script rfl hend rfl (by decide +kernel) hback 5 (by decide +kernel)
  have hfour : (t.forward w 5 Request.get 0 script).map (fun out => out.attempts.length) = some 4 := by
    decide +kernel
  rw [h] at hfour
  exact ⟨out, h, Option.some.inj hfour, hle⟩

end FederatedLedger
