import FederatedLedger.Proofs.Outcome

/-!
# Budgets without an end

A budget so large that its end is no instant (`Deadline.notAfter` is none) never runs out, and no attempt of such a
call is given a time. It still caps the backoff that the call gives, at its half, where a call without a budget has
the cap of its policy. That is the only difference: `forward_endless` says that the call is the one without a budget,
under the policy whose cap is half of the budget. So the two separate as soon as a node fails often enough for one of
the caps to bite (`huge_budget_waits_longer`), and never if the two caps give the same delays.

The two calls are kept in step turn by turn (`step_withCap`): a policy enters a turn only by the delays that it gives.
-/

namespace FederatedLedger

variable {σ : Type}

/-! ## Another cap -/

/-- The policy with another cap for calls without a budget. -/
def Backoff.withCap (b : Backoff) (cap : Duration) : Backoff := { b with noTimeoutCap := cap }

/-- Under the policy the two caps give the same delays. -/
def Backoff.CapsAgree (b : Backoff) (cap other : Duration) : Prop :=
  ∀ draw retries, b.delay draw retries cap = b.delay draw retries other

def Pool.withCap (p : Pool) (cap : Duration) : Pool := { p with backoff := p.backoff.withCap cap }

def Progress.withCap (p : Progress σ) (cap : Duration) : Progress σ := { p with pool := p.pool.withCap cap }

def Turn.withCap (cap : Duration) : Turn σ → Turn σ
  | .again p => .again (p.withCap cap)
  | .ended result p => .ended result (p.withCap cap)

/-- A request that leaves its budget to the transport. -/
def Request.unlimited (r : Request) : Request := { r with timeout := none }

/-- The transport without a budget, and with this cap in its policy. With the cap that its policy has, only the budget
goes. -/
def Transport.unlimited (t : Transport) (cap : Duration) : Transport :=
  { t with pool := t.pool.withCap cap, timeout := none }

theorem Backoff.CapsAgree.symm {b : Backoff} {cap other : Duration} (h : b.CapsAgree cap other) :
    b.CapsAgree other cap :=
  fun draw retries => (h draw retries).symm

/-- The delays grow up to the one after the most failures that are counted. -/
theorem Backoff.nanos_doubled_le (b : Backoff) (retries : Nat) :
    (b.doubled retries).nanos ≤ (b.doubled b.maxRetries).nanos := by
  have hexp : min (min retries b.maxRetries) 31 ≤ min (min b.maxRetries b.maxRetries) 31 := by omega
  have hprod := Nat.mul_le_mul_left b.initialDelay.nanos (Nat.pow_le_pow_right Nat.two_pos hexp)
  simp only [doubled, Duration.times, Duration.nanos_ofNanos]
  exact Nat.le_min.2 ⟨Nat.le_trans (Nat.min_le_left _ _) hprod, Nat.min_le_right _ _⟩

/-- Without jitter two caps give the same delays only if they are one or both are out of reach. -/
theorem Backoff.capsAgree_iff {b : Backoff} (hj : b.jitter = false) {cap other : Duration} :
    b.CapsAgree cap other ↔
      cap = other ∨ (b.doubled b.maxRetries ≤ cap ∧ b.doubled b.maxRetries ≤ other) := by
  have hdelay (retries : Nat) (cap : Duration) :
      (b.delay 0 retries cap).nanos = min (b.doubled retries).nanos cap.nanos := by
    simp only [delay, hj, Bool.false_eq_true, if_false, Duration.nanos_least]
  constructor
  · intro h
    have hmax := congrArg Duration.nanos (h 0 b.maxRetries)
    rw [hdelay, hdelay] at hmax
    by_cases heq : cap = other
    · exact .inl heq
    · have hne : cap.nanos ≠ other.nanos := fun h => heq (Duration.ext_nanos h)
      simp only [Duration.le_iff]
      omega
  · rintro (rfl | ⟨hcap, hother⟩) draw retries
    · rfl
    · have hle := b.nanos_doubled_le retries
      have hdraw (cap : Duration) : b.delay draw retries cap = b.delay 0 retries cap := by
        simp only [delay, hj, Bool.false_eq_true, if_false]
      rw [hdraw, hdraw]
      refine Duration.ext_nanos ?_
      rw [hdelay, hdelay, Nat.min_eq_left (Nat.le_trans hle hcap), Nat.min_eq_left (Nat.le_trans hle hother)]

namespace Pool
variable {p : Pool} {now : Instant} {d e : Deadline} {draw index : Nat} {cap other : Duration}

/-- No deadline that has no end is exceeded, so all of them choose alike. -/
theorem get_of_endless (hd : d.notAfter = none) (he : e.notAfter = none) : p.get now d = p.get now e := by
  simp only [get, Deadline.wouldExpire_of_none hd, Deadline.wouldExpire_of_none he]

theorem withCap_get : (p.withCap cap).get now d = ((p.get now d).1, (p.get now d).2.withCap cap) := rfl

/-- A choice under a deadline without an end takes no note of the deadline. -/
theorem withCap_get_of_endless (hd : d.notAfter = none) (he : e.notAfter = none) :
    (p.withCap cap).get now e = ((p.get now d).1, (p.get now d).2.withCap cap) := by
  rw [get_of_endless hd he]
  exact withCap_get

/-- A failure is noted alike under caps that give the same delays. -/
theorem withCap_failed {a b : Duration} (h : p.backoff.CapsAgree a b) :
    (p.withCap cap).failed now draw index b =
      ((p.failed now draw index a).1, (p.failed now draw index a).2.withCap cap) := by
  have hdelay (retries : Nat) : (p.backoff.withCap cap).delay draw retries b = p.backoff.delay draw retries a :=
    (h draw retries).symm
  unfold failed
  cases hm : p.members[index]? with
  | none => simp only [withCap, hm]; rfl
  | some m => simp only [withCap, hm, hdelay]; rfl

end Pool

/-- An attempt is noted alike. -/
theorem Pool.withCap_noteAttempt {w : World σ} {c d : Call} {k : Nat} {a : Attempt} {p : Pool} {cap : Duration}
    (hcaps : p.backoff.CapsAgree c.cap d.cap) (hru : c.retryUnavailable = d.retryUnavailable) :
    (p.withCap cap).noteAttempt w d k a = (p.noteAttempt w c k a).withCap cap := by
  unfold noteAttempt
  rw [hru]
  cases Attempt.outcome? d.retryUnavailable a.result with
  | none => rfl
  | some outcome =>
    cases outcome with
    | connectionError => exact congrArg Prod.snd (withCap_failed hcaps)
    | success => rfl
    | httpError => rfl

/-! ## Two calls in step -/

/-- Nothing in a turn tells the two calls apart, under this policy. -/
structure Call.Alike (b : Backoff) (c d : Call) : Prop where
  endless : c.deadline.notAfter = none ∧ d.deadline.notAfter = none
  request : c.request.unlimited = d.request.unlimited
  caps : b.CapsAgree c.cap d.cap
  retryUnavailable : c.retryUnavailable = d.retryUnavailable

theorem Call.Alike.symm {b : Backoff} {c d : Call} (h : c.Alike b d) (cap : Duration) : d.Alike (b.withCap cap) c :=
  ⟨h.endless.symm, h.request.symm, h.caps.symm, h.retryUnavailable.symm⟩

/-- An attempt is made of a request, whatever the budget of the request. -/
theorem Attempt.run_of_unlimited {w : World σ} {n : σ} {h : Handle} {r s : Request} {chosen started : Instant}
    {budget : Option Duration} (hrs : r.unlimited = s.unlimited) :
    Attempt.run w n h r chosen started budget = Attempt.run w n h s chosen started budget := by
  have hrun (r : Request) : Attempt.run w n h r chosen started budget =
      Attempt.run w n h r.unlimited chosen started budget := rfl
  rw [hrun r, hrs, ← hrun s]

namespace Progress
variable {w : World σ} {c d : Call} {p q s : Progress σ} {a : Attempt} {cap : Duration}

theorem withCap_fail (h : c.Alike p.pool.backoff d) (e : RequestError) :
    (p.withCap cap).fail w d a e = (p.fail w c a e).withCap cap := by
  have hfailed : (p.pool.withCap cap).failed p.now (w.draw p.attempts.length) a.index d.cap =
      ((p.pool.failed p.now (w.draw p.attempts.length) a.index c.cap).1, _) := Pool.withCap_failed h.caps
  simp only [fail, withCap, countAttempt, count, hfailed]
  split <;> rfl

theorem withCap_settle (h : c.Alike p.pool.backoff d) :
    (p.withCap cap).settle w d a = (p.settle w c a).withCap cap := by
  let noted : Progress σ := { p with now := a.finished, attempts := a :: p.attempts }
  have hnoted : c.Alike noted.pool.backoff d := h
  unfold settle
  cases hr : a.result with
  | ok data => rfl
  | error e =>
    cases e with
    | connection url fault => exact congrArg Turn.again (withCap_fail hnoted _)
    | http e =>
      rw [h.retryUnavailable]
      dsimp only
      split
      · exact congrArg Turn.again (withCap_fail (p := noted.log (.errorStatus e.url e.status)) hnoted _)
      · rfl
    | header name => rfl

/-- A call whose budget has no end never gives up. -/
theorem opening_of_endless (h : c.deadline.notAfter = none) (w : World σ) (p : Progress σ) :
    ∃ o, p.opening? w c = some o := by
  have hexceeds : (p.pool.get p.now c.deadline).1.exceeds = false := Deadline.wouldExpire_of_none h _
  simp [opening?, Deadline.isExpired_of_none h, hexceeds]

/-- Calls that are alike begin a turn alike. -/
theorem withCap_opening (h : c.Alike p.pool.backoff d) : (p.withCap cap).opening? w d = p.opening? w c := by
  obtain ⟨hc, hd⟩ := h.endless
  have hnow : (p.withCap cap).now = p.now := rfl
  have hpool : (p.withCap cap).pool = p.pool.withCap cap := rfl
  simp only [opening?, hnow, hpool, Pool.withCap_get_of_endless hc hd, Deadline.isExpired_of_none hc,
    Deadline.isExpired_of_none hd, Deadline.remaining_of_none hc, Deadline.remaining_of_none hd]

/-- **One turn.** Calls that are alike take the same turn. -/
theorem withCap_step (h : c.Alike p.pool.backoff d) :
    (p.withCap cap).step w d = (p.step w c).map (Turn.withCap cap) := by
  obtain ⟨o, ho⟩ := opening_of_endless h.endless.1 w p
  have ho' : (p.withCap cap).opening? w d = some o := (withCap_opening h).trans ho
  have hattempt : o.attempt w p.network d.request = o.attempt w p.network c.request :=
    Attempt.run_of_unlimited h.request.symm
  have hget : (p.withCap cap).pool.get (p.withCap cap).now d.deadline = _ :=
    Pool.withCap_get_of_endless h.endless.1 h.endless.2
  have hnetwork : (p.withCap cap).network = p.network := rfl
  rw [step_of_opening ho', step_of_opening ho, Option.map_map, hnetwork, hattempt, hget]
  congr 1
  funext ⟨a, n⟩
  exact withCap_settle (p := { p with pool := (p.pool.get p.now c.deadline).2, network := n }) h

theorem backoff_of_again (h : p.step w c = some (.again q)) : q.pool.backoff = p.pool.backoff := by
  obtain ⟨o, a, e, ht, -⟩ := step_again h
  rw [ht.pool, Pool.backoff_noteAttempt, Pool.backoff_get]

/-- **A whole call.** Calls that are alike end alike, after the same number of turns. -/
theorem withCap_run (turns : Nat) : ∀ {p : Progress σ}, c.Alike p.pool.backoff d →
    (p.withCap cap).run w d turns = (p.run w c turns).map fun (r, q) => (r, q.withCap cap) := by
  induction turns with
  | zero => exact fun _ => rfl
  | succ turns ih =>
    intro p h
    simp only [run, withCap_step h]
    cases hstep : p.step w c with
    | none => rfl
    | some turn =>
      cases turn with
      | again q => exact ih ((backoff_of_again hstep).symm ▸ h)
      | ended r q => rfl

theorem Tried.withCap {o : Opening} (ht : Tried w c p o a q) (h : c.Alike p.pool.backoff d) :
    Tried w d (p.withCap cap) o a (q.withCap cap) where
  opening := (withCap_opening h).trans ht.opening
  attempt := (Attempt.run_of_unlimited h.request.symm).trans ht.attempt
  now := ht.now
  pool := by
    have hget : (p.withCap cap).pool.get (p.withCap cap).now d.deadline = _ :=
      Pool.withCap_get_of_endless h.endless.1 h.endless.2
    have hnote : ((p.pool.get p.now c.deadline).2.withCap cap).noteAttempt w d (p.attempts.length + 1) a = _ :=
      Pool.withCap_noteAttempt h.caps h.retryUnavailable
    rw [hget]
    exact (congrArg (Pool.withCap · cap) ht.pool).trans hnote.symm
  attempts := ht.attempts

/-- Calls that are alike go through the same stretches of turns, under a policy that stays. -/
theorem Reaches.withCap (hr : Reaches w c p q) (h : c.Alike p.pool.backoff d) (cap : Duration) :
    Reaches w d (p.withCap cap) (q.withCap cap) ∧ c.Alike q.pool.backoff d := by
  induction hr with
  | refl => exact ⟨.refl, h⟩
  | tail _ hstep ih =>
    obtain ⟨hreach, halike⟩ := ih
    refine ⟨hreach.tail ?_, (backoff_of_again hstep).symm ▸ halike⟩
    rw [withCap_step halike, hstep]
    rfl

/-- They make the same attempts, also where they never end. -/
theorem withCap_makes (h : c.Alike p.pool.backoff d) : Makes w c p a ↔ Makes w d (p.withCap cap) a := by
  constructor
  · rintro ⟨q, o, s, hreach, ht⟩
    obtain ⟨hreach, halike⟩ := hreach.withCap h cap
    exact ⟨_, o, _, hreach, ht.withCap halike⟩
  · rintro ⟨q, o, s, hreach, ht⟩
    -- The same stretch taken back: its own cap put in again gives the policy that was there.
    obtain ⟨hreach, halike⟩ := hreach.withCap (h.symm cap) p.pool.backoff.noTimeoutCap
    exact ⟨_, o, _, hreach, ht.withCap halike⟩

end Progress

/-! ## The budget whose end does not exist -/

/-- What a call came to, with the transport left without a budget and with this cap. -/
def Outcome.unlimited (cap : Duration) (out : Outcome σ) : Outcome σ :=
  { out with transport := out.transport.unlimited cap }

/-- Both nodes drop the first request that comes to them. -/
def Script.dropFirst : Script :=
  [("a:9984", ⟨[⟨Duration.zero, .drop⟩], none⟩), ("b:9984", ⟨[⟨Duration.zero, .drop⟩], none⟩)]

theorem Transport.alike_unlimited {t : Transport} {request : Request} {now : Instant} {T cap : Duration}
    (hT : request.timeout.or t.timeout = some T) (hend : now.add? T = none)
    (hcaps : t.pool.backoff.CapsAgree T.half cap) :
    (t.call request now).Alike t.pool.backoff ((t.unlimited cap).call request.unlimited now) where
  endless := ⟨by simp [call, Deadline.notAfter, hT, hend], rfl⟩
  request := rfl
  caps := by
    have hcap : (t.call request now).cap = T.half := by simp [call, Backoff.capFor, hT]
    rw [hcap]
    exact hcaps
  retryUnavailable := rfl

/-- **A budget without an end.** A call whose budget `T` ends at no instant is the call without a budget, but for
the cap of its delays: with half of `T` as the cap of the policy, or with any cap that gives the same delays, the call
without a budget makes the same attempts, and if it ends it ends with the same result, at the same instant, with the
same network, report, health of the nodes and turn. -/
theorem forward_endless {t : Transport} {w : World σ} {request : Request} {now : Instant} {network : σ}
    {T : Duration} (hT : request.timeout.or t.timeout = some T) (hend : now.add? T = none) :
    ∀ cap, t.pool.backoff.CapsAgree T.half cap →
      (∀ turns, (t.unlimited cap).forward w turns request.unlimited now network =
        (t.forward w turns request now network).map (Outcome.unlimited cap)) ∧
      ∀ a, Progress.Makes w (t.call request now) (t.start w now network) a ↔
        Progress.Makes w ((t.unlimited cap).call request.unlimited now) ((t.unlimited cap).start w now network) a := by
  intro cap hcaps
  have halike := t.alike_unlimited hT hend hcaps
  refine ⟨fun turns => ?_, fun a => Progress.withCap_makes halike⟩
  have hrun : ((t.start w now network).withCap cap).run w ((t.unlimited cap).call request.unlimited now) turns = _ :=
    Progress.withCap_run turns halike
  have hstart : (t.unlimited cap).start w now network = (t.start w now network).withCap cap := rfl
  simp only [Transport.forward, hstart, hrun, Option.map_map]
  rfl

/-- Two nodes that have failed five times and drop one more request. No delay of the usual policy is longer than 600
seconds, so that cap without a budget does what the longest of all budgets does. -/
theorem forward_endless_pair : ∃ (t : Transport) (out : Outcome Script), t.timeout = some Duration.longest ∧
    out.attempts.length = 3 ∧ t.forward (World.exact Script.network) 3 Request.get 0 Script.dropFirst = some out ∧
    (t.unlimited (Duration.ofSecs 600)).forward (World.exact Script.network) 3 Request.get 0 Script.dropFirst =
      some (out.unlimited (Duration.ofSecs 600)) := by
  let t := Transport.pair ⟨5, none⟩ ⟨5, none⟩ (some Duration.longest) false
  have hlen : (t.forward (World.exact Script.network) 3 Request.get 0 Script.dropFirst).map
      (fun out => out.attempts.length) = some 3 := by decide +kernel
  obtain ⟨out, h, hout⟩ := Option.map_eq_some_iff.1 hlen
  have hend : Instant.add? 0 Duration.longest = none := by decide +kernel
  have hcaps : t.pool.backoff.CapsAgree Duration.longest.half (Duration.ofSecs 600) :=
    (Backoff.capsAgree_iff rfl).2 (.inr (by decide +kernel))
  have hboth : (t.unlimited (Duration.ofSecs 600)).forward (World.exact Script.network) 3 Request.get.unlimited 0
      Script.dropFirst = _ := (forward_endless rfl hend _ hcaps).1 3
  refine ⟨t, out, rfl, hout, h, hboth.trans ?_⟩
  rw [h]
  rfl

/-- The same nodes with the cap of the usual policy. A node that drops the request is left alone for 16 seconds under
the longest of all budgets, and for 10 seconds without a budget. -/
theorem huge_budget_waits_longer : ∃ (t : Transport) (out out' : Outcome Script),
    t.timeout = none ∧ Instant.add? 0 Duration.longest = none ∧
    t.forward (World.exact Script.network) 3 (Request.get.withTimeout Duration.longest) 0 Script.dropFirst =
      some out ∧
    t.forward (World.exact Script.network) 3 Request.get 0 Script.dropFirst = some out' ∧
    out.attempts.map Attempt.started = [0, 0, 16000000000] ∧
    out'.attempts.map Attempt.started = [0, 0, 10000000000] ∧ out.finished ≠ out'.finished := by
  let t := Transport.pair ⟨5, none⟩ ⟨5, none⟩ none false
  let facts (out : Outcome Script) := (out.attempts.map Attempt.started, out.finished)
  have hhuge : (t.forward (World.exact Script.network) 3 (Request.get.withTimeout Duration.longest) 0
      Script.dropFirst).map facts = some ([0, 0, 16000000000], 16000000000) := by decide +kernel
  have hnone : (t.forward (World.exact Script.network) 3 Request.get 0 Script.dropFirst).map facts =
      some ([0, 0, 10000000000], 10000000000) := by decide +kernel
  obtain ⟨out, h, hout⟩ := Option.map_eq_some_iff.1 hhuge
  obtain ⟨out', h', hout'⟩ := Option.map_eq_some_iff.1 hnone
  obtain ⟨hstarted, hfinished⟩ := Prod.mk.inj hout
  obtain ⟨hstarted', hfinished'⟩ := Prod.mk.inj hout'
  refine ⟨t, out, out', rfl, by decide +kernel, h, h', hstarted, hstarted', ?_⟩
  rw [hfinished, hfinished']
  decide

end FederatedLedger
