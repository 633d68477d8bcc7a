import FederatedLedger.Proofs.Turns

/-!
# What a call comes to

A finished call is read off its attempts. `Attempt.Plays` says that they are those of the network, one after the
other, each on a node of the pool; `forward_outcome` says what they make of the result and of the pool: all but
the last are failures of nodes, the last one decides, and the health of the nodes afterwards is what the notes
on the attempts make of the health before (`Pool.noteAll`).
-/

namespace FederatedLedger

variable {σ : Type}

/-- The errors that count against a node: that no answer came, and under `retryUnavailable` also an answer
with the status 503 or 504. -/
inductive RequestError.NodeFailure (retryUnavailable : Bool) : RequestError → Prop
  | unanswered (url : String) (fault : LinkFault) : NodeFailure retryUnavailable (.connection url fault)
  | unavailable {e : HttpError} (h : retryUnavailable = true) (hs : e.status = 503 ∨ e.status = 504) :
    NodeFailure retryUnavailable (.http e)

theorem HttpError.isUnavailable_iff (e : HttpError) :
    e.kind.isUnavailable = true ↔ e.status = 503 ∨ e.status = 504 := by
  unfold kind StatusKind.ofStatus
  by_cases h3 : e.status = 503
  · simp [h3, StatusKind.isUnavailable]
  · by_cases h4 : e.status = 504
    · simp [h4, StatusKind.isUnavailable]
    · simp only [h3, h4, if_false, or_self, iff_false, Bool.not_eq_true]
      split
      · rfl
      · split <;> rfl

theorem RequestError.isNodeFailure_iff {retryUnavailable : Bool} {e : RequestError} :
    e.isNodeFailure retryUnavailable = true ↔ e.NodeFailure retryUnavailable := by
  constructor
  · intro h
    cases e with
    | connection url fault => exact .unanswered url fault
    | http e =>
      obtain ⟨hr, hk⟩ := (Bool.and_eq_true _ _).mp h
      exact .unavailable hr ((HttpError.isUnavailable_iff e).1 hk)
    | header name => cases h
  · rintro (⟨url, fault⟩ | ⟨hr, hs⟩)
    · rfl
    · exact (Bool.and_eq_true _ _).mpr ⟨hr, (HttpError.isUnavailable_iff _).2 hs⟩

/-- The attempt failed in a way that another node may mend. -/
def Attempt.Failed (retryUnavailable : Bool) (a : Attempt) : Prop :=
  ∃ e, a.result = .error e ∧ e.NodeFailure retryUnavailable

/-- The attempts `as` follow one another from the state `s` of the network, and leave it in the state `n`. Each
is made with the connection of the node at its index. -/
inductive Attempt.Plays (w : World σ) (request : Request) (connections : List Connection) (s : σ) :
    List Attempt → σ → Prop
  | nil : Plays w request connections s [] s
  | snoc {as : List Attempt} {n n' : σ} {o : Opening} {a : Attempt} : Plays w request connections s as n →
    connections[a.index]? = some o.handle.connection → o.attempt w n request = some (a, n') →
    Plays w request connections s (as ++ [a]) n'

/-! ## Notes on attempts -/

namespace Pool

/-- The pool after the notes on all attempts of a call, in order. -/
def noteAll (w : World σ) (c : Call) (p : Pool) (attempts : List Attempt) : Pool :=
  (attempts.zipIdx 1).foldl (fun p (a, k) => p.noteAttempt w c k a) p

variable {w : World σ} {c : Call} {k : Nat} {a : Attempt} {p q : Pool}

theorem noteAll_snoc (p : Pool) (attempts : List Attempt) (a : Attempt) : p.noteAll w c (attempts ++ [a]) =
    (p.noteAll w c attempts).noteAttempt w c (attempts.length + 1) a := by
  simp [noteAll, List.zipIdx_append, Nat.add_comm 1]

@[simp] theorem backoff_noteAttempt (p : Pool) : (p.noteAttempt w c k a).backoff = p.backoff := by
  unfold noteAttempt; split <;> simp

theorem backoff_noteAll (p : Pool) (attempts : List Attempt) : (p.noteAll w c attempts).backoff = p.backoff := by
  unfold noteAll
  induction attempts.zipIdx 1 generalizing p with
  | nil => rfl
  | cons x xs ih => rw [List.foldl_cons, ih, backoff_noteAttempt]

/-- A note on an attempt changes health only. -/
theorem connections_noteAttempt (p : Pool) :
    (p.noteAttempt w c k a).members.map Member.connection = p.members.map Member.connection := by
  unfold noteAttempt
  split
  · rw [members_failed]; exact map_connection_modify _ _ _ fun _ => rfl
  · rw [members_succeeded]; exact map_connection_modify _ _ _ fun _ => rfl
  · rw [members_succeeded]; exact map_connection_modify _ _ _ fun _ => rfl
  · rfl

/-- The cursor has no part in what a note does to the members. -/
theorem members_noteAttempt_congr (hm : p.members = q.members) (hb : p.backoff = q.backoff) :
    (p.noteAttempt w c k a).members = (q.noteAttempt w c k a).members := by
  unfold noteAttempt
  split
  · rw [members_failed, members_failed, hm, hb]
  · rw [members_succeeded, members_succeeded, hm]
  · rw [members_succeeded, members_succeeded, hm]
  · exact hm

end Pool

/-! ## The history of a call -/

namespace Progress

/-- What the attempts up to here tell of network and pool. -/
structure History (t : Transport) (w : World σ) (c : Call) (network : σ) (p : Progress σ) : Prop where
  plays : Attempt.Plays w c.request (t.pool.members.map Member.connection) network p.attempts.reverse p.network
  connections : p.pool.members.map Member.connection = t.pool.members.map Member.connection
  members : p.pool.members = (t.pool.noteAll w c p.attempts.reverse).members
  backoff : p.pool.backoff = t.pool.backoff

variable {t : Transport} {w : World σ} {c : Call} {network : σ} {p q : Progress σ} {o : Opening} {a : Attempt}

/-- Every attempt carries the history on, whatever came of it. -/
theorem History.tried (h : History t w c network p) (ht : Tried w c p o a q) : History t w c network q := by
  have hlen : p.attempts.length = p.attempts.reverse.length := by simp
  refine ⟨?_, ?_, ?_, ?_⟩
  · rw [ht.attempts, List.reverse_cons]
    refine .snoc h.plays ?_ ht.attempt
    obtain ⟨m, hm, hconn, -⟩ := p.pool.get_member p.now c.deadline
    rw [ht.index, ← h.connections, List.getElem?_map, ht.handle, hm, hconn]; rfl
  · rw [ht.pool, Pool.connections_noteAttempt, Pool.members_get, h.connections]
  · rw [ht.pool, ht.attempts, List.reverse_cons, Pool.noteAll_snoc, ← hlen]
    refine Pool.members_noteAttempt_congr h.members ?_
    rw [Pool.backoff_get, h.backoff, Pool.backoff_noteAll]
  · rw [ht.pool, Pool.backoff_noteAttempt, Pool.backoff_get, h.backoff]

/-- Giving up changes nothing of it. -/
theorem History.unchanged (h : History t w c network p) (hn : q.network = p.network)
    (ha : q.attempts = p.attempts) (hm : q.pool.members = p.pool.members)
    (hb : q.pool.backoff = p.pool.backoff) : History t w c network q := by
  refine ⟨?_, ?_, ?_, ?_⟩
  · rw [hn, ha]; exact h.plays
  · rw [hm]; exact h.connections
  · rw [hm, ha]; exact h.members
  · rw [hb]; exact h.backoff

theorem history_start (t : Transport) (w : World σ) (c : Call) (now : Instant) (network : σ) :
    History t w c network (t.start w now network) :=
  ⟨.nil, rfl, rfl, rfl⟩

theorem Reaches.history (h : Reaches w c p q) (hp : History t w c network p) : History t w c network q :=
  h.invariant hp fun _ _ _ _ _ _ hist ht _ _ _ => hist.tried ht

/-- While a call goes on, its errors are those of its attempts, and all of them are failures of nodes. -/
structure Failing (c : Call) (p : Progress σ) : Prop where
  results : p.attempts.map Attempt.result = p.errors.map .error
  failed : ∀ a ∈ p.attempts, a.Failed c.retryUnavailable

theorem Reaches.failing (h : Reaches w c p q) (hp : p.Failing c) : q.Failing c := by
  refine h.invariant hp fun p q o a e _ hp ht hr hf herr => ⟨?_, ?_⟩
  · rw [ht.attempts, herr, List.map_cons, List.map_cons, hp.results, hr]
  · rw [ht.attempts]
    exact List.forall_mem_cons.2 ⟨⟨e, hr, RequestError.isNodeFailure_iff.1 hf⟩, hp.failed⟩

end Progress

/-- What the attempts of a call make of its result. -/
structure Attempt.Decide (retryUnavailable : Bool) (attempts : List Attempt)
    (result : Except TransportError Json) : Prop where
  /-- Only a failure of the node leads to a further attempt. -/
  failed : ∀ a ∈ attempts.dropLast, a.Failed retryUnavailable
  data : ∀ a data, attempts.getLast? = some a → a.result = .ok data → result = .ok data
  error : ∀ a e, attempts.getLast? = some a → a.result = .error e → ¬ e.NodeFailure retryUnavailable →
    result = .error (.request e)
  /-- The errors of all attempts in their order, also if there was no attempt. -/
  timeout : (∀ a, attempts.getLast? = some a → a.Failed retryUnavailable) →
    ∃ errors, result = .error (.timeout errors) ∧ attempts.map Attempt.result = errors.map .error

theorem Attempt.decide_of_failed {ru : Bool} {attempts : List Attempt} {errors : List RequestError}
    (h : ∀ a ∈ attempts, a.Failed ru) (he : attempts.map Attempt.result = errors.map .error) :
    Decide ru attempts (.error (.timeout errors)) where
  failed a ha := h a (List.dropLast_subset _ ha)
  data a data hlast hok := by
    obtain ⟨e, he, -⟩ := h a (List.mem_of_getLast? hlast)
    rw [hok] at he; cases he
  error a e hlast herr hnot := by
    obtain ⟨e', he, hf⟩ := h a (List.mem_of_getLast? hlast)
    rw [herr] at he; cases he
    exact absurd hf hnot
  timeout _ := ⟨errors, rfl, he⟩

theorem Attempt.decide_of_verdict {ru : Bool} {before : List Attempt} {a : Attempt}
    {r : Except TransportError Json} (h : ∀ b ∈ before, b.Failed ru) (hv : Progress.Verdict ru a r) :
    Decide ru (before ++ [a]) r := by
  have hlast : ∀ b, (before ++ [a]).getLast? = some b → b = a := by
    intro b hb
    rw [List.getLast?_concat] at hb
    exact (Option.some.inj hb).symm
  refine ⟨by rwa [List.dropLast_concat], ?_, ?_, ?_⟩
  · intro b data hb hok
    rw [hlast b hb] at hok
    exact hv.of_ok hok
  · intro b e hb herr _
    rw [hlast b hb] at herr
    exact (hv.of_error herr).1
  · intro hall
    obtain ⟨e, he, hf⟩ := hall a List.getLast?_concat
    have := (hv.of_error he).2
    rw [RequestError.isNodeFailure_iff.2 hf] at this
    cases this

/-- **What a call comes to.** The attempts of a finished call are those that the network plays, they decide the
result, and the nodes afterwards are those from before after the notes on all attempts. -/
theorem forward_outcome {t : Transport} {w : World σ} {turns : Nat} {request : Request} {now : Instant}
    {network : σ} {out : Outcome σ} (h : t.forward w turns request now network = some out) :
    Attempt.Plays w request (t.pool.members.map Member.connection) network out.attempts out.network ∧
    Attempt.Decide t.retryUnavailable out.attempts out.result ∧
    out.transport.pool.members = (t.pool.noteAll w (t.call request now) out.attempts).members := by
  obtain ⟨p, q, hreach, hend, hatt, hnet, -, htr⟩ := Transport.forward_eq_some h
  have hist := hreach.history (Progress.history_start t w (t.call request now) now network)
  have hfail : p.Failing (t.call request now) := hreach.failing ⟨rfl, by simp [Transport.start]⟩
  have hfailed : ∀ a ∈ p.attempts.reverse, a.Failed t.retryUnavailable := fun a ha =>
    hfail.failed a (List.mem_reverse.1 ha)
  rw [hatt, hnet, htr]
  rcases Progress.step_ended hend with ⟨-, hr, hn, -, ha, hpool⟩ | ⟨o, a, ht, hv⟩
  · have hist : Progress.History t w (t.call request now) network q := by
      refine hist.unchanged hn ha ?_ ?_ <;> rw [hpool] <;> split <;> rfl
    refine ⟨hist.plays, ?_, hist.members⟩
    rw [ha, hr]
    exact Attempt.decide_of_failed hfailed (by rw [List.map_reverse, hfail.results, List.map_reverse])
  · have hist := hist.tried ht
    refine ⟨hist.plays, ?_, hist.members⟩
    rw [ht.attempts, List.reverse_cons]
    exact Attempt.decide_of_verdict hfailed hv

/-- The first node cannot serve for now, and the second one has no such path. -/
theorem forward_outcome_pair : ∃ out,
    (Transport.pair Health.fresh Health.fresh none true).forward (World.exact Script.network) 3 Request.get 0
      (Script.pair (1, .reply ⟨503, none, []⟩) (1, .reply ⟨404, none, []⟩)) = some out ∧
    out.attempts.length = 2 ∧ Attempt.Decide true out.attempts out.result := by
  let t := Transport.pair Health.fresh Health.fresh none true
  let script := Script.pair (1, .reply ⟨503, none, []⟩) (1, .reply ⟨404, none, []⟩)
  have hlen : (t.forward (World.exact Script.network) 3 Request.get 0 script).map
      (fun out => out.attempts.length) = some 2 := by decide +kernel
  obtain ⟨out, h, hout⟩ := Option.map_eq_some_iff.1 hlen
  exact ⟨out, h, hout, (forward_outcome h).2.1⟩

end FederatedLedger
