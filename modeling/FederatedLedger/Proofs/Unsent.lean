import FederatedLedger.Proofs.History
import FederatedLedger.Proofs.Turns

/-!
# Requests that are never sent

A request may be at fault by itself: a header that no request can carry, or a path that makes no address with
the endpoint. `Connection.compose` finds both before anything is sent, but as errors of different kinds. A faulty
header ends the call in its first turn, and only the choice of the node has moved the cursor
(`Transport.forward_of_faulty`). A bad address counts as a failure of the node, which is charged with it.
-/

namespace FederatedLedger

variable {σ : Type}

namespace Connection

/-- What is wrong with a request that cannot be composed: a header, or else its address. -/
theorem compose_error {c : Connection} {r : Request} {e : RequestError} (h : c.compose r = .error e) :
    (∃ name, r.headers.sent = .error name ∧ e = .header name) ∨
    (∃ named, r.headers.sent = .ok named) ∧ ∃ cause, e = .connection (c.urlFor r.path) (.address cause) := by
  unfold compose at h
  split at h
  · rename_i name hname
    exact .inl ⟨name, hname, (Except.error.inj h).symm⟩
  · rename_i named hnamed
    refine .inr ⟨⟨named, hnamed⟩, ?_⟩
    dsimp only at h
    split at h
    · exact ⟨_, (Except.error.inj h).symm⟩
    · exact ⟨_, (Except.error.inj h).symm⟩
    · cases h

/-- A faulty header is found whatever the node. -/
theorem compose_of_faulty {c : Connection} {r : Request} {name : String} (h : r.headers.sent = .error name) :
    c.compose r = .error (.header name) := by
  rw [compose, h]

end Connection

namespace Progress
variable {w : World σ} {c : Call} {p q : Progress σ} {o : Opening} {a : Attempt} {e : RequestError}

theorem Tried.result_of_uncomposed (h : Tried w c p o a q)
    (he : (p.pool.get p.now c.deadline).1.connection.compose c.request = .error e) : a.result = .error e :=
  (Opening.attempt_of_uncomposed (by rw [h.handle, he]) h.attempt).1

/-- After a faulty header the pool is as the choice of the node left it. -/
theorem Tried.pool_of_faulty {name : String} (h : Tried w c p o a q) (hr : a.result = .error (.header name)) :
    q.pool = (p.pool.get p.now c.deadline).2 := by
  rw [h.pool]
  simp [Pool.noteAttempt, Attempt.outcome?, hr, RequestError.isNodeFailure, RequestError.answer?]

/-- A turn with a faulty header ends the call, whatever the network does: without an attempt, or with one that finds
it. -/
theorem step_of_faulty {name : String} (h : c.request.headers.sent = .error name) :
    ∃ r q, p.step w c = some (.ended r q) ∧
      ((r = .error (.timeout p.errors.reverse) ∧ q.attempts = p.attempts) ∨
        (r = .error (.request (.header name)) ∧ ∃ o a, Tried w c p o a q ∧ a.result = .error (.header name))) := by
  cases ho : p.opening? w c with
  | none =>
    obtain ⟨q, hq, -, -, hsame, -⟩ := step_of_no_opening ho
    exact ⟨_, q, hq, .inl ⟨rfl, hsame⟩⟩
  | some o =>
    have hfault : o.handle.connection.compose c.request = .error (.header name) := Connection.compose_of_faulty h
    obtain ⟨⟨a, n⟩, ha⟩ : ∃ an, o.attempt w p.network c.request = some an := by
      simp [Opening.attempt, Attempt.run, hfault]
    have hr := (Opening.attempt_of_uncomposed hfault ha).1
    obtain ⟨q, hq, ht⟩ := step_of_verdict ho ha (.error hr rfl)
    exact ⟨_, q, hq, .inr ⟨rfl, o, a, ht, hr⟩⟩

end Progress

/-- **A faulty header ends the call in its first turn**, whatever the network does and wherever the cursor stands. If
the call gets to an attempt, it returns what is wrong with the header, and only the choice of the node has moved the
cursor. -/
theorem Transport.forward_of_faulty (t : Transport) (w : World σ) {request : Request} (now : Instant) (network : σ)
    {name : String} (h : request.headers.sent = .error name) :
    ∃ out : Outcome σ, (∀ turns, t.forward w (turns + 1) request now network = some out) ∧
      ((out.attempts = [] ∧ out.result = .error (.timeout [])) ∨
        ((∃ a, out.attempts = [a] ∧ a.result = .error (.header name)) ∧
          out.result = .error (.request (.header name)) ∧
          out.transport.pool = (t.pool.get (now + w.lag) (t.call request now).deadline).2)) := by
  obtain ⟨r, q, hstep, hcase⟩ :=
    Progress.step_of_faulty (w := w) (c := t.call request now) (p := t.start w now network) h
  refine ⟨⟨r, { t with pool := q.pool }, q.now, q.network, q.attempts.reverse, q.report⟩,
    fun turns => by rw [forward, Progress.run, hstep]; rfl, ?_⟩
  rcases hcase with ⟨hr, hq⟩ | ⟨hr, o, a, ht, ha⟩
  · exact .inl ⟨congrArg List.reverse hq, hr⟩
  · exact .inr ⟨⟨a, congrArg List.reverse ht.attempts, ha⟩, hr, ht.pool_of_faulty ha⟩

/-- The call ended with its first attempt and returned this error; nodes and cursor are as before. -/
structure Outcome.Untouched (t : Transport) (e : RequestError) (out : Outcome σ) : Prop where
  first : ∃ a, out.attempts = [a] ∧ a.result = .error e
  result : out.result = .error (.request e)
  members : out.transport.pool.members = t.pool.members
  cursor : out.transport.pool.cursor = t.pool.cursor

/-- **Requests that are never sent.** Take a call that makes an attempt, and whose request cannot be composed for
the node that is chosen first. It leaves the pool alone and returns the error of its first attempt iff a header
is at fault and no node leaves backoff sooner than the one at the cursor. With a header at fault it makes one attempt only,
returns that error and charges no node, wherever the cursor stands. -/
theorem unsent_untouched_iff {t : Transport} {w : World σ} {turns : Nat} {request : Request} {now : Instant}
    {network : σ} {out : Outcome σ} {e : RequestError} (hpool : t.pool.Reachable)
    (he : (t.pool.get (now + w.lag) (t.call request now).deadline).1.connection.compose request = .error e)
    (h : t.forward w turns request now network = some out) (hout : out.attempts ≠ []) :
    (out.Untouched t e ↔ (∃ name, request.headers.sent = .error name) ∧ ∀ m ∈ t.pool.members,
      (t.pool.memberAt t.pool.cursor).health.wait (now + w.lag) ≤ m.health.wait (now + w.lag)) ∧
    ((∃ name, request.headers.sent = .error name) → (∃ a, out.attempts = [a] ∧ a.result = .error e) ∧
      out.result = .error (.request e) ∧ out.transport.pool.members = t.pool.members) := by
  have hcursor := t.pool.cursor_get_eq_iff (now + w.lag) (t.call request now).deadline hpool.cursor_lt
  have hfaulty : (∃ name, request.headers.sent = .error name) → (∃ a, out.attempts = [a] ∧ a.result = .error e) ∧
      out.result = .error (.request e) ∧
      out.transport.pool = (t.pool.get (now + w.lag) (t.call request now).deadline).2 := by
    rintro ⟨name, hname⟩
    obtain rfl : e = .header name := by
      rw [Connection.compose_of_faulty hname] at he
      exact (Except.error.inj he).symm
    obtain ⟨out', hforward, hcase⟩ := t.forward_of_faulty w now network hname
    obtain rfl : out' = out := by
      cases turns with
      | zero => cases h
      | succ n => exact Option.some.inj ((hforward n).symm.trans h)
    exact hcase.resolve_left fun hnone => hout hnone.1
  refine ⟨⟨?_, ?_⟩, fun hname => ?_⟩
  · rintro ⟨⟨a, ha, -⟩, hresult, -, hsame⟩
    obtain ⟨p, q, hreach, hend, hatt, -, -, -⟩ := Transport.forward_eq_some h
    rcases Progress.step_ended hend with ⟨-, hr, -⟩ | ⟨o, b, ht, hv⟩
    · rw [hresult] at hr; cases hr
    · have hp : p.attempts = [] := by
        rw [ha, ht.attempts, List.reverse_cons] at hatt
        simpa using congrArg List.length hatt
      obtain rfl := hreach.eq_of_attempts hp
      obtain ⟨-, hf⟩ := hv.of_error (ht.result_of_uncomposed he)
      rcases Connection.compose_error he with ⟨name, hname, rfl⟩ | ⟨-, cause, rfl⟩
      · refine ⟨⟨name, hname⟩, ?_⟩
        rw [← hcursor, ← (hfaulty ⟨name, hname⟩).2.2]
        exact hsame
      · cases hf
  · rintro ⟨hname, hnone⟩
    obtain ⟨hfirst, hresult, hgot⟩ := hfaulty hname
    refine ⟨hfirst, hresult, ?_, ?_⟩
    · rw [hgot]; rfl
    · rw [hgot]
      exact hcursor.2 hnone
  · obtain ⟨hfirst, hresult, hgot⟩ := hfaulty hname
    exact ⟨hfirst, hresult, by rw [hgot]; rfl⟩

theorem Transport.ofConnections_pair (timeout : Option Duration) (retryUnavailable : Bool) :
    Pool.ofConnections [⟨"http://a:9984", []⟩, ⟨"http://b:9984", []⟩] Backoff.standard =
      .ok (pair Health.fresh Health.fresh timeout retryUnavailable).pool := rfl

/-- The first of two nodes failed, and the turn is at it again. A faulty header is found at the other one, so the
cursor has moved to that. -/
theorem unsent_untouched_iff_backoff : ∃ (t : Transport) (out : Outcome Unit), t.pool.Reachable ∧ t.pool.cursor = 0 ∧
    t.forward (World.exact Network.unreachable) 1 (Request.get.withHeader "two words" "x") 2 () = some out ∧
    out.attempts.length = 1 ∧ ¬ out.Untouched t (.header "two words") := by
  let new : Pool := (Transport.pair Health.fresh Health.fresh none false).pool
  let first := (new.get 0 ⟨0, none⟩).1
  let early : List PoolOp := [.report first (.failed 0 0 (Duration.ofSecs 1)), .get 0 ⟨0, none⟩]
  let second := ((new.after early).get 1 ⟨0, none⟩).1
  let ops : List PoolOp := [.report second .answered, .get 1 ⟨0, none⟩] ++ early
  let t : Transport := ⟨[], new.after ops, none, false⟩
  have hpool : t.pool.Reachable := by
    have hsecond : second ∈ [second, first] := List.mem_cons_self
    have hfirst : first ∈ [first] := List.mem_cons_self
    exact ⟨_, _, new, ops, Transport.ofConnections_pair none false, ⟨hsecond, hfirst, trivial⟩, rfl⟩
  have hlen : (t.forward (World.exact Network.unreachable) 1 (Request.get.withHeader "two words" "x") 2 ()).map
      (fun out => out.attempts.length) = some 1 := by decide +kernel
  obtain ⟨out, h, hout⟩ := Option.map_eq_some_iff.1 hlen
  have hne : out.attempts ≠ [] := List.length_pos_iff.1 (by rw [hout]; exact Nat.one_pos)
  have hsooner : ¬ ∀ m ∈ t.pool.members, (t.pool.memberAt t.pool.cursor).health.wait 2 ≤ m.health.wait 2 := by
    decide +kernel
  refine ⟨t, out, hpool, by decide +kernel, h, hout, fun huntouched => hsooner ?_⟩
  exact ((unsent_untouched_iff hpool (Connection.compose_of_faulty rfl) h hne).1.1 huntouched).2

/-- The path makes no address with either endpoint. Both nodes are tried twice, though nothing can be sent, and
are charged each time; the call gives up. -/
theorem bad_address_charges_nodes : ∃ (t : Transport) (request : Request) (out : Outcome Unit), t.pool.Reachable ∧
    (∀ m ∈ t.pool.members, (m.connection.compose request).isOk = false) ∧
    t.forward (World.exact Network.unreachable) 5 request 0 () = some out ∧
    out.attempts.map Attempt.received = [none, none, none, none] ∧
    out.transport.pool.members.map (·.health.retries) = [2, 2] ∧ ∀ e, ¬ out.Untouched t e := by
  let t := Transport.pair Health.fresh Health.fresh (some (Duration.ofSecs 1)) false
  let request := Request.get.withPath "abc"
  have hpool : t.pool.Reachable := ⟨_, _, t.pool, [], Transport.ofConnections_pair _ _, trivial, rfl⟩
  have hout : (t.forward (World.exact Network.unreachable) 5 request 0 ()).map
      (fun out => (out.attempts.map Attempt.received, out.transport.pool.members.map (·.health.retries))) =
        some ([none, none, none, none], [2, 2]) := by decide +kernel
  obtain ⟨out, h, hfacts⟩ := Option.map_eq_some_iff.1 hout
  obtain ⟨hreceived, hretries⟩ := Prod.mk.inj hfacts
  refine ⟨t, request, out, hpool, by decide +kernel, h, hreceived, hretries, fun e huntouched => ?_⟩
  rw [huntouched.members] at hretries
  exact absurd hretries (by decide)

end FederatedLedger
