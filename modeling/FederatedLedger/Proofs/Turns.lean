import FederatedLedger.Proofs.Pool
import FederatedLedger.Transport.Basic
import FederatedLedger.Transport.Script
import Mathlib.Logic.Relation

/-!
# Turns of a call

What one turn can do, said once. `Progress.opening?` is the part of a turn before it tries a node, and a turn
without one gives up. After an attempt the progress is that of `Progress.Tried`, whatever came of it; only
whether the call goes on depends on the result (`step_again`, `step_ended`). `Progress.Reaches` is a stretch of
turns, and `run_eq_some` takes a finished call apart into such a stretch and a last turn.
-/

namespace FederatedLedger

variable {σ : Type}

/-- What a turn has fixed when it starts to try a node. -/
structure Opening where
  handle : Handle
  chosen : Instant
  started : Instant
  budget : Option Duration

/-- The attempt that follows, if it ends. -/
def Opening.attempt (o : Opening) (w : World σ) (network : σ) (request : Request) : Option (Attempt × σ) :=
  Attempt.run w network o.handle request o.chosen o.started o.budget

/-- The attempt is recorded as it was begun, and does not end before. -/
theorem Opening.attempt_fields {o : Opening} {w : World σ} {n n' : σ} {request : Request} {a : Attempt}
    (h : o.attempt w n request = some (a, n')) : a.index = o.handle.index ∧
      a.endpoint = o.handle.connection.endpoint ∧ a.chosen = o.chosen ∧ a.started = o.started ∧
      a.budget = o.budget ∧ o.started ≤ a.finished := by
  unfold attempt Attempt.run at h
  split at h
  · cases h
    exact ⟨rfl, rfl, rfl, rfl, rfl, Int.le_refl _⟩
  · obtain ⟨⟨x, s⟩, -, hx⟩ := Option.map_eq_some_iff.1 h
    cases hx
    exact ⟨rfl, rfl, rfl, rfl, rfl, Int.le_add_of_nonneg_right (Int.natCast_nonneg _)⟩

/-- A request that the node's connection cannot compose takes no time and does not come to the network. -/
theorem Opening.attempt_of_uncomposed {o : Opening} {w : World σ} {n n' : σ} {request : Request} {a : Attempt}
    {e : RequestError} (he : o.handle.connection.compose request = .error e)
    (h : o.attempt w n request = some (a, n')) : a.result = .error e ∧ a.finished = o.started ∧ n' = n := by
  simp only [attempt, Attempt.run, he, Option.some.injEq, Prod.mk.injEq] at h
  obtain ⟨rfl, rfl⟩ := h
  exact ⟨rfl, rfl, rfl⟩

/-- Takes note of an attempt, the `k`-th of its call: a failure of the node is charged to it, an answer makes
it healthy, and a request that could not be composed says nothing of the node. -/
def Pool.noteAttempt (w : World σ) (c : Call) (k : Nat) (a : Attempt) (p : Pool) : Pool :=
  match Attempt.outcome? c.retryUnavailable a.result with
  | some .connectionError => (p.failed a.finished (w.draw k) a.index c.cap).2
  | some .success | some .httpError => p.succeeded a.index
  | none => p

theorem Pool.noteAttempt_of_failure {w : World σ} {c : Call} {k : Nat} {a : Attempt} {p : Pool} {e : RequestError}
    (hr : a.result = .error e) (hf : e.isNodeFailure c.retryUnavailable = true) :
    p.noteAttempt w c k a = (p.failed a.finished (w.draw k) a.index c.cap).2 := by
  simp [noteAttempt, Attempt.outcome?, hr, hf]

namespace Progress
variable {w : World σ} {c : Call} {p q : Progress σ} {o : Opening} {a : Attempt} {n : σ}

/-- What a turn does before it tries a node: none if the call gives up instead. -/
def opening? (w : World σ) (c : Call) (p : Progress σ) : Option Opening :=
  let h := (p.pool.get p.now c.deadline).1
  if c.deadline.isExpired p.now || h.exceeds then none
  else some ⟨h, p.now, w.wake p.now h.wait, c.deadline.remaining (w.wake p.now h.wait)⟩

theorem opening?_eq_some_iff : p.opening? w c = some o ↔
    c.deadline.isExpired p.now = false ∧ o.handle.exceeds = false ∧ o.handle = (p.pool.get p.now c.deadline).1 ∧
      o.chosen = p.now ∧ o.started = w.wake p.now o.handle.wait ∧ o.budget = c.deadline.remaining o.started := by
  obtain ⟨h, chosen, started, budget⟩ := o
  simp only [opening?, Option.ite_none_left_eq_some, Bool.or_eq_true, not_or, Bool.not_eq_true,
    Option.some.injEq, Opening.mk.injEq]
  constructor
  · rintro ⟨⟨h1, h2⟩, rfl, rfl, rfl, rfl⟩; exact ⟨h1, h2, rfl, rfl, rfl, rfl⟩
  · rintro ⟨h1, h2, rfl, rfl, rfl, rfl⟩; exact ⟨⟨h1, h2⟩, rfl, rfl, rfl, rfl⟩

/-- `q` is `p` after the attempt `a`, which began with `o`. -/
structure Tried (w : World σ) (c : Call) (p : Progress σ) (o : Opening) (a : Attempt) (q : Progress σ) : Prop where
  opening : p.opening? w c = some o
  attempt : o.attempt w p.network c.request = some (a, q.network)
  now : q.now = a.finished
  pool : q.pool = (p.pool.get p.now c.deadline).2.noteAttempt w c (p.attempts.length + 1) a
  attempts : q.attempts = a :: p.attempts

theorem Tried.handle (h : Tried w c p o a q) : o.handle = (p.pool.get p.now c.deadline).1 :=
  (opening?_eq_some_iff.1 h.opening).2.2.1

theorem Tried.index (h : Tried w c p o a q) : a.index = o.handle.index := (Opening.attempt_fields h.attempt).1

/-- What the last attempt of a call makes of it. -/
inductive Verdict (retryUnavailable : Bool) (a : Attempt) : Except TransportError Json → Prop
  | data {data : Json} (h : a.result = .ok data) : Verdict retryUnavailable a (.ok data)
  | error {e : RequestError} (h : a.result = .error e) (hf : e.isNodeFailure retryUnavailable = false) :
    Verdict retryUnavailable a (.error (.request e))

theorem Verdict.of_ok {ru : Bool} {r : Except TransportError Json} (h : Verdict ru a r) {data : Json}
    (ha : a.result = .ok data) : r = .ok data := by
  cases h with
  | data h => rw [ha] at h; cases h; rfl
  | error h _ => rw [ha] at h; cases h

theorem Verdict.of_error {ru : Bool} {r : Except TransportError Json} (h : Verdict ru a r) {e : RequestError}
    (ha : a.result = .error e) : r = .error (.request e) ∧ e.isNodeFailure ru = false := by
  cases h with
  | data h => rw [ha] at h; cases h
  | error h hf => rw [ha] at h; cases h; exact ⟨rfl, hf⟩

/-- An attempt is a failure of the node or settles the call. -/
theorem failure_or_verdict (retryUnavailable : Bool) (a : Attempt) :
    (∃ e, a.result = .error e ∧ e.isNodeFailure retryUnavailable = true) ∨ ∃ r, Verdict retryUnavailable a r := by
  cases hr : a.result with
  | ok data => exact .inr ⟨_, .data hr⟩
  | error e =>
    cases hf : e.isNodeFailure retryUnavailable with
    | true => exact .inl ⟨e, rfl, hf⟩
    | false => exact .inr ⟨_, .error hr hf⟩

/-! ## After an attempt -/

theorem settle_failure (p : Progress σ) {e : RequestError} (hr : a.result = .error e)
    (hf : e.isNodeFailure c.retryUnavailable = true) :
    ∃ q, p.settle w c a = .again q ∧ q.network = p.network ∧ q.now = a.finished ∧
      q.pool = p.pool.noteAttempt w c (p.attempts.length + 1) a ∧ q.attempts = a :: p.attempts ∧
      q.errors = e :: p.errors := by
  rw [Pool.noteAttempt_of_failure hr hf]
  cases e with
  | connection url fault =>
    simp only [settle, hr]
    refine ⟨_, rfl, ?_⟩
    simp only [fail]; split <;> exact ⟨rfl, rfl, rfl, rfl, rfl⟩
  | http e =>
    simp only [settle, hr, hf, if_true]
    refine ⟨_, rfl, ?_⟩
    simp only [fail]; split <;> exact ⟨rfl, rfl, rfl, rfl, rfl⟩
  | header name => cases hf

theorem settle_verdict (p : Progress σ) {r : Except TransportError Json} (hv : Verdict c.retryUnavailable a r) :
    ∃ q, p.settle w c a = .ended r q ∧ q.network = p.network ∧ q.now = a.finished ∧
      q.pool = p.pool.noteAttempt w c (p.attempts.length + 1) a ∧ q.attempts = a :: p.attempts := by
  cases hv with
  | data hr =>
    have hnote : p.pool.noteAttempt w c (p.attempts.length + 1) a = p.pool.succeeded a.index := by
      simp [Pool.noteAttempt, Attempt.outcome?, hr]
    rw [hnote]
    simp only [settle, hr]
    exact ⟨_, rfl, rfl, rfl, rfl, rfl⟩
  | @error e hr hf =>
    cases e with
    | connection url fault => cases hf
    | http e =>
      have hnote : p.pool.noteAttempt w c (p.attempts.length + 1) a = p.pool.succeeded a.index := by
        simp [Pool.noteAttempt, Attempt.outcome?, hr, hf, RequestError.answer?]
      rw [hnote]
      simp only [settle, hr, hf, Bool.false_eq_true, if_false]
      exact ⟨_, rfl, rfl, rfl, rfl, rfl⟩
    | header name =>
      have hnote : p.pool.noteAttempt w c (p.attempts.length + 1) a = p.pool := by
        simp [Pool.noteAttempt, Attempt.outcome?, hr, hf, RequestError.answer?]
      rw [hnote]
      simp only [settle, hr]
      exact ⟨_, rfl, rfl, rfl, rfl, rfl⟩

/-! ## One turn -/

theorem step_of_opening (h : p.opening? w c = some o) : p.step w c =
    (o.attempt w p.network c.request).map fun (a, network) =>
      settle w c a { p with pool := (p.pool.get p.now c.deadline).2, network } := by
  obtain ⟨hlive, hin, hh, hch, hst, hb⟩ := opening?_eq_some_iff.1 h
  rw [hh] at hin hst
  simp only [step, hlive, hin, Bool.false_eq_true, if_false, Opening.attempt, hh, hch, hst, hb]

/-- A turn without an opening gives up and changes nothing but the cursor. -/
theorem step_of_no_opening (h : p.opening? w c = none) :
    ∃ q, p.step w c = some (.ended (.error (.timeout p.errors.reverse)) q) ∧ q.network = p.network ∧
      q.now = p.now ∧ q.attempts = p.attempts ∧
      q.pool = if c.deadline.isExpired p.now then p.pool else (p.pool.get p.now c.deadline).2 := by
  unfold step
  by_cases hexp : c.deadline.isExpired p.now
  · simp only [hexp, if_true]
    exact ⟨_, rfl, rfl, rfl, rfl, rfl⟩
  · have hexc : (p.pool.get p.now c.deadline).1.exceeds = true := by simpa [opening?, hexp] using h
    simp only [hexp, hexc, if_true, Bool.false_eq_true, if_false]
    exact ⟨_, rfl, rfl, rfl, rfl, rfl⟩

/-- After a failure of the node the call goes on. -/
theorem step_of_failure (ho : p.opening? w c = some o) (ha : o.attempt w p.network c.request = some (a, n))
    {e : RequestError} (hr : a.result = .error e) (hf : e.isNodeFailure c.retryUnavailable = true) :
    ∃ q, p.step w c = some (.again q) ∧ Tried w c p o a q ∧ q.errors = e :: p.errors := by
  obtain ⟨q, hq, rfl, hnow, hpool, hatt, herr⟩ := settle_failure (w := w)
    { p with pool := (p.pool.get p.now c.deadline).2, network := n } hr hf
  refine ⟨q, ?_, ⟨ho, ha, hnow, hpool, hatt⟩, herr⟩
  rw [step_of_opening ho, ha]
  exact congrArg some hq

/-- After any other attempt it ends. -/
theorem step_of_verdict (ho : p.opening? w c = some o) (ha : o.attempt w p.network c.request = some (a, n))
    {r : Except TransportError Json} (hv : Verdict c.retryUnavailable a r) :
    ∃ q, p.step w c = some (.ended r q) ∧ Tried w c p o a q := by
  obtain ⟨q, hq, rfl, hnow, hpool, hatt⟩ := settle_verdict (w := w)
    { p with pool := (p.pool.get p.now c.deadline).2, network := n } hv
  refine ⟨q, ?_, ⟨ho, ha, hnow, hpool, hatt⟩⟩
  rw [step_of_opening ho, ha]
  exact congrArg some hq

theorem step_of_pending (ho : p.opening? w c = some o) (ha : o.attempt w p.network c.request = none) :
    p.step w c = none := by
  rw [step_of_opening ho, ha, Option.map_none]

/-- **A turn that leads to the next** tried a node, and the node failed. -/
theorem step_again (h : p.step w c = some (.again q)) : ∃ o a e, Tried w c p o a q ∧ a.result = .error e ∧
    e.isNodeFailure c.retryUnavailable = true ∧ q.errors = e :: p.errors := by
  cases ho : p.opening? w c with
  | none =>
    obtain ⟨q', hq', -⟩ := step_of_no_opening ho
    rw [hq'] at h; cases h
  | some o =>
    cases ha : o.attempt w p.network c.request with
    | none => rw [step_of_pending ho ha] at h; cases h
    | some an =>
      rcases failure_or_verdict c.retryUnavailable an.1 with ⟨e, hr, hf⟩ | ⟨r, hv⟩
      · obtain ⟨q', hq', ht, herr⟩ := step_of_failure ho ha hr hf
        rw [hq'] at h; cases h
        exact ⟨o, an.1, e, ht, hr, hf, herr⟩
      · obtain ⟨q', hq', -⟩ := step_of_verdict ho ha hv
        rw [hq'] at h; cases h

/-- **A turn that ends the call** gave up without an attempt, or made one that settles the call. -/
theorem step_ended {r : Except TransportError Json} (h : p.step w c = some (.ended r q)) :
    (p.opening? w c = none ∧ r = .error (.timeout p.errors.reverse) ∧ q.network = p.network ∧ q.now = p.now ∧
      q.attempts = p.attempts ∧
      q.pool = if c.deadline.isExpired p.now then p.pool else (p.pool.get p.now c.deadline).2) ∨
    ∃ o a, Tried w c p o a q ∧ Verdict c.retryUnavailable a r := by
  cases ho : p.opening? w c with
  | none =>
    obtain ⟨q', hq', hrest⟩ := step_of_no_opening ho
    rw [hq'] at h; cases h
    exact .inl ⟨rfl, rfl, hrest⟩
  | some o =>
    cases ha : o.attempt w p.network c.request with
    | none => rw [step_of_pending ho ha] at h; cases h
    | some an =>
      rcases failure_or_verdict c.retryUnavailable an.1 with ⟨e, hr, hf⟩ | ⟨r', hv⟩
      · obtain ⟨q', hq', -⟩ := step_of_failure ho ha hr hf
        rw [hq'] at h; cases h
      · obtain ⟨q', hq', ht⟩ := step_of_verdict ho ha hv
        rw [hq'] at h; cases h
        exact .inr ⟨o, an.1, ht, hv⟩

/-! ## Stretches of turns -/

/-- `q` comes out of `p` by turns that each lead to the next. -/
def Reaches (w : World σ) (c : Call) : Progress σ → Progress σ → Prop :=
  Relation.ReflTransGen fun p q => p.step w c = some (.again q)

/-- What holds at first and is kept by every failed attempt holds throughout. -/
theorem Reaches.invariant {s : Progress σ} {motive : Progress σ → Prop} (h : Reaches w c s q) (first : motive s)
    (again : ∀ p q o a e, Reaches w c s p → motive p → Tried w c p o a q → a.result = .error e →
      e.isNodeFailure c.retryUnavailable = true → q.errors = e :: p.errors → motive q) : motive q := by
  induction h with
  | refl => exact first
  | tail hreach hstep ih =>
    obtain ⟨o, a, e, ht, hr, hf, herr⟩ := step_again hstep
    exact again _ _ o a e hreach ih ht hr hf herr

/-- From `s` on the call makes the attempt `a`. -/
def Makes (w : World σ) (c : Call) (s : Progress σ) (a : Attempt) : Prop :=
  ∃ p o q, Reaches w c s p ∧ Tried w c p o a q

theorem Reaches.makes {s : Progress σ} (h : Reaches w c s p) (hs : s.attempts = []) :
    ∀ a ∈ p.attempts, Makes w c s a := by
  refine h.invariant (motive := fun p => ∀ a ∈ p.attempts, Makes w c s a) (by simp [hs])
    fun p q o a e hreach ih ht _ _ _ => ?_
  rw [ht.attempts]
  exact List.forall_mem_cons.2 ⟨⟨p, o, q, hreach, ht⟩, ih⟩

/-- A stretch that made no attempt has no turns. -/
theorem Reaches.eq_of_attempts {s : Progress σ} (h : Reaches w c s p) (hp : p.attempts = []) : p = s := by
  cases h with
  | refl => rfl
  | tail _ hstep =>
    obtain ⟨o, a, e, ht, -⟩ := step_again hstep
    rw [ht.attempts] at hp
    cases hp

/-- A call that ends does so with a last turn after a stretch of turns. -/
theorem run_eq_some {r : Except TransportError Json} : ∀ {turns : Nat} {p : Progress σ},
    run w c turns p = some (r, q) → ∃ p', Reaches w c p p' ∧ p'.step w c = some (.ended r q)
  | 0, _, h => by simp [run] at h
  | turns + 1, p, h => by
    simp only [run] at h
    split at h
    · cases h
    · rename_i p' hp'
      obtain ⟨p'', hreach, hend⟩ := run_eq_some h
      exact ⟨p'', .head hp' hreach, hend⟩
    · rename_i r' q' hend
      cases h
      exact ⟨p, .refl, hend⟩

end Progress

/-- The same for a call of a transport. -/
theorem Transport.forward_eq_some {t : Transport} {w : World σ} {turns : Nat} {request : Request} {now : Instant}
    {network : σ} {out : Outcome σ} (h : t.forward w turns request now network = some out) :
    ∃ p q, Progress.Reaches w (t.call request now) (t.start w now network) p ∧
      p.step w (t.call request now) = some (.ended out.result q) ∧
      out.attempts = q.attempts.reverse ∧ out.network = q.network ∧ out.finished = q.now ∧
      out.transport = { t with pool := q.pool } := by
  obtain ⟨⟨r, q⟩, hrun, rfl⟩ := Option.map_eq_some_iff.1 h
  obtain ⟨p, hreach, hend⟩ := Progress.run_eq_some hrun
  exact ⟨p, q, hreach, hend, rfl, rfl, rfl, rfl⟩

/-- The attempts of a finished call are among those that the call makes. -/
theorem Transport.forward_makes {t : Transport} {w : World σ} {turns : Nat} {request : Request} {now : Instant}
    {network : σ} {out : Outcome σ} (h : t.forward w turns request now network = some out) :
    ∀ a ∈ out.attempts, Progress.Makes w (t.call request now) (t.start w now network) a := by
  obtain ⟨p, q, hreach, hend, hatt, -⟩ := forward_eq_some h
  have hmakes := hreach.makes rfl
  rw [hatt]
  intro a ha
  rcases Progress.step_ended hend with ⟨-, -, -, -, hsame, -⟩ | ⟨o, b, ht, -⟩
  · rw [hsame] at ha
    exact hmakes a (List.mem_reverse.1 ha)
  · rw [ht.attempts, List.mem_reverse] at ha
    rcases List.mem_cons.1 ha with rfl | ha
    · exact ⟨p, o, q, hreach, ht⟩
    · exact hmakes a ha

/-! ## Two nodes

A federation small enough to follow a call through it. -/

/-- Two nodes in this state of health, with the usual backoff. -/
def Transport.pair (a b : Health) (timeout : Option Duration) (retryUnavailable : Bool) : Transport where
  nodes := [⟨"http://a:9984", []⟩, ⟨"http://b:9984", []⟩]
  pool := {
    members := [⟨⟨"http://a:9984", []⟩, a⟩, ⟨⟨"http://b:9984", []⟩, b⟩]
    members_ne := List.cons_ne_nil _ _
    cursor := 0
    backoff := Backoff.standard }
  timeout
  retryUnavailable

/-- How the two nodes react to every request, after this many milliseconds. -/
def Script.pair (a b : Nat × Reaction) : Script :=
  [("a:9984", ⟨[], some ⟨Duration.ofMillis a.1, a.2⟩⟩), ("b:9984", ⟨[], some ⟨Duration.ofMillis b.1, b.2⟩⟩)]

end FederatedLedger
