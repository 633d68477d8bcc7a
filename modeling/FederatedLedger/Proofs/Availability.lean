import FederatedLedger.Proofs.Budget

/-!
# Nodes in backoff

A call never uses a node that is in backoff, and does not give up while some node will leave backoff in time
(`forward_respects_backoff`). The first rests on sleeping out the wait of the chosen node to its end; the second
on the choice of the node with the least wait, so that its wait reaching the deadline speaks for all nodes.

Waits are durations, and a duration reaches between any two instants that exist (`Instant.Exists.sub_le`). The
turns of a call keep it so: `Progress.Soon`.
-/

namespace FederatedLedger

variable {σ : Type}

/-- The instants that there are: their seconds have a sign and 63 bits. -/
def Instant.Exists (t : Instant) : Prop := -bound ≤ t ∧ t < bound

instance (t : Instant) : Decidable t.Exists := inferInstanceAs (Decidable (_ ∧ _))

theorem Instant.two_mul_bound : 2 * bound = (maxNanos : Int) + 1 := by decide +kernel

theorem Instant.Exists.sub_le {later earlier : Instant} (hl : later.Exists) (he : earlier.Exists) :
    later ≤ earlier + maxNanos := by
  have := two_mul_bound
  have := hl.2
  have := he.1
  grind

namespace Health
variable {h : Health} {now later free : Instant}

/-- Waiting as long as it says, a node is out of backoff. -/
theorem isAvailable_of_wait (hfar : ∀ free ∈ h.nextAvailableAt, free ≤ now + maxNanos)
    (hl : now + (h.wait now).nanos ≤ later) : h.isAvailable later = true := by
  cases hat : h.nextAvailableAt with
  | none => simp [isAvailable, hat]
  | some free =>
    have hfar := hfar free hat
    simp only [wait, hat, Instant.nanos_since] at hl
    simp only [isAvailable, hat, decide_eq_true_eq]
    grind

/-- A node that must be waited for up to an instant stays in backoff until then. -/
theorem le_nextAvailableAt {wait : Duration} (hw : wait ≤ h.wait now) (hpos : now < now + wait.nanos) :
    ∃ free, h.nextAvailableAt = some free ∧ now + wait.nanos ≤ free := by
  cases hat : h.nextAvailableAt with
  | none =>
    simp only [Health.wait, hat, Duration.le_iff, Duration.nanos_zero] at hw
    grind
  | some free =>
    simp only [Health.wait, hat, Duration.le_iff, Instant.nanos_since] at hw
    exact ⟨free, rfl, by grind⟩

theorem backoffEnd_le (now : Instant) (delay : Duration) : backoffEnd now delay ≤ now + maxNanos := by
  have := backoffEnd_le_max now delay
  have := delay.nanos_le
  have := farFuture.nanos_le
  grind

end Health

namespace Progress
variable {w : World σ} {c : Call} {p q : Progress σ} {o : Opening} {a : Attempt} {e : Instant}

/-- No node is further from the end of its backoff than a duration reaches. -/
def Soon (p : Progress σ) : Prop :=
  ∀ m ∈ p.pool.members, ∀ free ∈ m.health.nextAvailableAt, free ≤ p.now + maxNanos

theorem Soon.tried {err : RequestError} (hw : w.Exact) (hp : p.Soon) (ht : Tried w c p o a q)
    (hr : a.result = .error err) (hf : err.isNodeFailure c.retryUnavailable = true) : q.Soon := by
  have hnow := ht.now_le hw
  intro m hm free hfree
  rw [ht.pool, Pool.noteAttempt_of_failure hr hf, Pool.members_failed, Pool.members_get] at hm
  obtain ⟨i, hi⟩ := List.mem_iff_getElem?.1 hm
  simp only [List.getElem?_modify, Option.map_eq_map, Option.map_eq_some_iff] at hi
  obtain ⟨m', hm', rfl⟩ := hi
  split at hfree
  · -- the node that was just charged
    rw [ht.now]
    cases hfree
    exact Health.backoffEnd_le _ _
  · have := hp m' (List.mem_of_getElem? hm') free hfree
    grind

theorem Reaches.soon (hw : w.Exact) (h : Reaches w c p q) (hp : p.Soon) : q.Soon :=
  h.invariant hp fun _ _ _ _ _ _ ih ht hr hf _ => ih.tried hw ht hr hf

/-- The sleep before an attempt lasts until the node is out of backoff. -/
theorem available_of_opening (hw : w.Exact) (hp : p.Soon) (ho : p.opening? w c = some o) :
    ∃ m, p.pool.members[o.handle.index]? = some m ∧ o.handle.connection = m.connection ∧
      m.health.isAvailable o.started = true := by
  obtain ⟨-, -, hh, -, hst, -⟩ := opening?_eq_some_iff.1 ho
  obtain ⟨m, hm, hconn, hwait⟩ := p.pool.get_member p.now c.deadline
  rw [← hh] at hm hconn hwait
  have hslept : o.started = p.now + (m.health.wait p.now).nanos := by rw [hst, hw.wake, hwait]
  exact ⟨m, hm, hconn, Health.isAvailable_of_wait (hp m (List.mem_of_getElem? hm)) (Int.le_of_eq hslept.symm)⟩

/-- Without an end of the budget no turn gives up. -/
theorem isSome_opening_of_none (he : c.deadline.notAfter = none) : (p.opening? w c).isSome = true := by
  simp [opening?, Pool.exceeds_get, Deadline.isExpired_of_none he, Deadline.wouldExpire_of_none he]

/-- A turn that gives up before the end of the budget leaves no node that could be used before it. -/
theorem le_nextAvailableAt_of_no_opening (he : c.deadline.notAfter = some e) (hp : c.deadline.started ≤ p.now)
    (hnow : p.now < e) (ho : p.opening? w c = none) :
    ∀ m ∈ p.pool.members, ∃ free, m.health.nextAvailableAt = some free ∧ e ≤ free := by
  have hlive := (Deadline.isExpired_eq_false_iff he).2 hnow
  have hexc : (p.pool.get p.now c.deadline).1.exceeds = true := by simpa [opening?, hlive] using ho
  rw [Pool.exceeds_get, Deadline.wouldExpire_iff he hp] at hexc
  intro m hm
  obtain ⟨free, hfree, hle⟩ := Health.le_nextAvailableAt (p.pool.wait_get_le p.now c.deadline hm)
    (Int.lt_of_lt_of_le hnow hexc)
  exact ⟨free, hfree, Int.le_trans hexc hle⟩

end Progress

/-- **Backoff is respected, and not more than that.** When a call begins an attempt, whether or not that ends, the
node it chose is out of backoff; so it was for the attempts of a finished call. When a call times out, it has a
budget with an end, and either that end is reached, or no node of the pool leaves backoff before it. -/
theorem forward_respects_backoff {w : World σ} (hw : w.Exact) (t : Transport) (request : Request) (now : Instant)
    (network : σ) (hnow : now.Exists)
    (hpool : ∀ m ∈ t.pool.members, ∀ free ∈ m.health.nextAvailableAt, free.Exists) :
    (∀ p o, Progress.Reaches w (t.call request now) (t.start w now network) p →
      p.opening? w (t.call request now) = some o →
      ∃ m, p.pool.members[o.handle.index]? = some m ∧ o.handle.connection = m.connection ∧
        m.health.isAvailable o.started = true) ∧
    (∀ turns out, t.forward w turns request now network = some out → ∀ a ∈ out.attempts, ∃ p m,
      Progress.Reaches w (t.call request now) (t.start w now network) p ∧ p.now = a.chosen ∧
      p.pool.members[a.index]? = some m ∧ a.endpoint = m.connection.endpoint ∧
      m.health.isAvailable a.started = true) ∧
    ∀ turns out errors, t.forward w turns request now network = some out →
      out.result = .error (.timeout errors) →
      ∃ T e, request.timeout.or t.timeout = some T ∧ now.add? T = some e ∧
        (out.finished < e → ∀ m ∈ out.transport.pool.members,
          ∃ free, m.health.nextAvailableAt = some free ∧ e ≤ free) := by
  have hstart := t.start_now hw now network
  have hsoon : (t.start w now network).Soon := by
    intro m hm free hfree
    rw [hstart]
    exact (hpool m hm free hfree).sub_le hnow
  refine ⟨fun p o hp ho => Progress.available_of_opening hw (hp.soon hw hsoon) ho, ?_, ?_⟩
  · intro turns out h a ha
    obtain ⟨p, o, q, hreach, ht⟩ := Transport.forward_makes h a ha
    obtain ⟨m, hm, hconn, hfree⟩ := Progress.available_of_opening hw (hreach.soon hw hsoon) ht.opening
    obtain ⟨hindex, hend, hch, hst, -, -⟩ := Opening.attempt_fields ht.attempt
    obtain ⟨-, -, -, hchosen, -, -⟩ := Progress.opening?_eq_some_iff.1 ht.opening
    exact ⟨p, m, hreach, by rw [hch, hchosen], hindex ▸ hm, by rw [hend, hconn], by rw [hst]; exact hfree⟩
  intro turns out errors h htimeout
  obtain ⟨p, q, hreach, hended, -, -, hfin, htr⟩ := Transport.forward_eq_some h
  rcases Progress.step_ended hended with ⟨ho, -, -, hq, -, hmembers⟩ | ⟨o, a, -, hv⟩
  · cases he : (t.call request now).deadline.notAfter with
    | none =>
      have hopen : (p.opening? w (t.call request now)).isSome = true := Progress.isSome_opening_of_none he
      rw [ho] at hopen; cases hopen
    | some e =>
      obtain ⟨T, hT, hend⟩ := Deadline.notAfter_eq_some_iff.1 he
      refine ⟨T, e, hT, hend, fun hlt => ?_⟩
      have hsame : q.pool.members = p.pool.members := by rw [hmembers]; split <;> rfl
      rw [htr, hsame]
      rw [hfin, hq] at hlt
      exact Progress.le_nextAvailableAt_of_no_opening he (hstart ▸ hreach.now_le hw) hlt ho
  · -- an attempt settles a call otherwise
    rw [htimeout] at hv
    cases hv

/-- The two nodes leave backoff after half a second and after a second, and the call has less time. -/
theorem forward_respects_backoff_pair : ∃ out,
    (Transport.pair ⟨1, some 500000000⟩ ⟨2, some 1000000000⟩ (some (Duration.ofMillis 400)) false).forward
      (World.exact Script.network) 1 Request.get 0 [] = some out ∧ out.finished < 400000000 ∧
    ∀ m ∈ out.transport.pool.members, ∃ free, m.health.nextAvailableAt = some free ∧ 400000000 ≤ free := by
  let t := Transport.pair ⟨1, some 500000000⟩ ⟨2, some 1000000000⟩ (some (Duration.ofMillis 400)) false
  have hend : (t.forward (World.exact Script.network) 1 Request.get 0 []).map
      (fun out => (out.result, out.finished)) = some (.error (.timeout []), 0) := rfl
  obtain ⟨out, h, hout⟩ := Option.map_eq_some_iff.1 hend
  obtain ⟨hresult, hfin⟩ := Prod.mk.inj hout
  obtain ⟨-, -, hbackoff⟩ := forward_respects_backoff (World.exact_exact Script.network) t Request.get 0 []
    (by decide +kernel) (by decide +kernel)
  obtain ⟨T, e, hT, he, hfree⟩ := hbackoff 1 out [] h hresult
  cases hT
  obtain ⟨-, rfl⟩ := Instant.add?_eq_some_iff.1 he
  have hlt : out.finished < 400000000 := by rw [hfin]; decide
  exact ⟨out, h, hlt, hfree hlt⟩

end FederatedLedger
