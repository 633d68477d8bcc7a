import FederatedLedger.Proofs.Outcome

/-!
# What the metrics account for

Metrics are a list of updates, and `Metric.requests`, `Metric.samples`, `Metric.gauge?` and `Metric.timeouts` read
from it what a collector shows. `Accounts` ties such a list to the attempts that were made, the failures that were
reported, and the calls whose time was over. It holds of a single attempt with its updates, and of lists put
together if it holds of each. So it is carried through a call turn by turn, and through a session of calls on one
transport call by call. What a single call adds to the counters depends on its result alone (`Metric.Adds`).
-/

namespace FederatedLedger

variable {σ : Type}

/-! ## Reading metrics -/

namespace Metric

/-- The outcome that an update counts. -/
def counted? : Metric → Option AttemptOutcome
  | .requestsTotal _ outcome => some outcome
  | _ => none

/-- The sample that an update adds to the durations of an endpoint. -/
def sample? (endpoint : String) : Metric → Option Duration
  | .requestDuration node elapsed => if node = endpoint then some elapsed else none
  | _ => none

/-- The backoff that an update sets for an endpoint. -/
def backoff? (endpoint : String) : Metric → Option Duration
  | .nodeBackoff node delay => if node = endpoint then some delay else none
  | _ => none

/-- The attempts that are counted for an endpoint with an outcome. -/
def requests (ms : List Metric) (endpoint : String) (outcome : AttemptOutcome) : Nat :=
  ms.count (.requestsTotal endpoint outcome)

/-- The attempts that are counted with an outcome, for whatever endpoint. -/
def total (ms : List Metric) (outcome : AttemptOutcome) : Nat :=
  ms.countP fun m => m.counted? = some outcome

/-- The durations that are recorded for an endpoint. -/
def samples (ms : List Metric) (endpoint : String) : List Duration := ms.filterMap (sample? endpoint)

/-- The backoff that is shown for an endpoint: the one that was set last. -/
def gauge? (ms : List Metric) (endpoint : String) : Option Duration := ms.findSome? (backoff? endpoint)

/-- The calls that are counted because their time was over. -/
def timeouts (ms : List Metric) : Nat := ms.count .timeoutsTotal

end Metric

/-! ## Updates and what they stand for -/

/-- A failure that was reported to a pool: the node, and the delay that it was given. -/
structure Charge where
  index : Nat
  delay : Duration

/-- The updates `ms` account for these attempts, for failures reported with these delays, and for as many calls
as `late` whose time was over. `nodes` tells the endpoint of each node, and all lists are latest first. -/
structure Accounts (retryUnavailable : Bool) (nodes : Nat → Option String) (attempts : List Attempt)
    (charges : List Charge) (late : Nat) (ms : List Metric) : Prop where
  requests : ∀ endpoint outcome, Metric.requests ms endpoint outcome = attempts.countP fun a =>
    nodes a.index = some endpoint ∧ Attempt.outcome? retryUnavailable a.result = some outcome
  total : ∀ outcome, Metric.total ms outcome =
    attempts.countP fun a => Attempt.outcome? retryUnavailable a.result = some outcome
  samples : ∀ endpoint, Metric.samples ms endpoint = (attempts.filter fun a =>
    nodes a.index = some endpoint ∧ (Attempt.outcome? retryUnavailable a.result).isSome).map fun a =>
      a.finished.since a.started
  gauge : ∀ endpoint, Metric.gauge? ms endpoint =
    (charges.find? fun x => nodes x.index = some endpoint).map Charge.delay
  timeouts : Metric.timeouts ms = late

namespace Accounts
variable {ru : Bool} {nodes : Nat → Option String} {attempts attempts' : List Attempt}
  {charges charges' : List Charge} {late late' : Nat} {ms ms' : List Metric}

theorem nil : Accounts ru nodes [] [] 0 [] :=
  ⟨fun _ _ => rfl, fun _ => rfl, fun _ => rfl, fun _ => rfl, rfl⟩

/-- A call that gives up is counted, and nothing else. -/
theorem giveUp : Accounts ru nodes [] [] 1 [.timeoutsTotal] :=
  ⟨fun _ _ => rfl, fun _ => rfl, fun _ => rfl, fun _ => rfl, rfl⟩

theorem append (h : Accounts ru nodes attempts charges late ms)
    (h' : Accounts ru nodes attempts' charges' late' ms') :
    Accounts ru nodes (attempts ++ attempts') (charges ++ charges') (late + late') (ms ++ ms') where
  requests endpoint outcome := by
    rw [List.countP_append, ← h.requests, ← h'.requests]
    exact List.count_append
  total outcome := by
    rw [List.countP_append, ← h.total, ← h'.total]
    exact List.countP_append
  samples endpoint := by
    rw [List.filter_append, List.map_append, ← h.samples, ← h'.samples]
    exact List.filterMap_append
  gauge endpoint := by
    rw [List.find?_append, Option.map_or, ← h.gauge, ← h'.gauge]
    exact List.findSome?_append
  timeouts := by
    rw [← h.timeouts, ← h'.timeouts]
    exact List.count_append

/-- Every attempt that is counted is measured, once. -/
theorem length_samples (h : Accounts ru nodes attempts charges late ms) (endpoint : String) :
    (Metric.samples ms endpoint).length = Metric.requests ms endpoint .success +
      Metric.requests ms endpoint .httpError + Metric.requests ms endpoint .connectionError := by
  rw [h.samples, h.requests, h.requests, h.requests, List.length_map, ← List.countP_eq_length_filter]
  clear h
  induction attempts with
  | nil => rfl
  | cons a as ih =>
    simp only [List.countP_cons, ih]
    by_cases hn : nodes a.index = some endpoint
    · rcases Attempt.outcome? ru a.result with _ | _ | _ | _ <;> simp [hn] <;> omega
    · simp [hn]

end Accounts

/-- The updates that count and measure an attempt, if it is one that counts. -/
def Attempt.measured (retryUnavailable : Bool) (a : Attempt) : List Metric :=
  match outcome? retryUnavailable a.result with
  | none => []
  | some outcome =>
    [.requestDuration a.endpoint (a.finished.since a.started), .requestsTotal a.endpoint outcome]

/-- The updates for an attempt, whose node was given this delay if it failed. -/
def Attempt.updates (retryUnavailable : Bool) (charge : Option Duration) (a : Attempt) : List Metric :=
  (charge.map (.nodeBackoff a.endpoint)).toList ++ a.measured retryUnavailable

namespace Accounts
variable {ru : Bool} {nodes : Nat → Option String} {a : Attempt}

theorem measured (h : nodes a.index = some a.endpoint) : Accounts ru nodes [a] [] 0 (a.measured ru) := by
  unfold Attempt.measured
  cases ho : Attempt.outcome? ru a.result with
  | none => constructor <;> simp [ho, Metric.requests, Metric.total, Metric.samples, Metric.gauge?, Metric.timeouts]
  | some outcome =>
    refine ⟨fun endpoint outcome' => ?_, fun outcome' => ?_, fun endpoint => ?_, fun _ => rfl, rfl⟩
    · simp [Metric.requests, ho, h, List.count_cons]
    · simp [Metric.total, Metric.counted?, ho, List.countP_cons]
    · by_cases he : a.endpoint = endpoint <;> simp [Metric.samples, Metric.sample?, ho, h, he]

theorem charged (h : nodes a.index = some a.endpoint) (charge : Option Duration) :
    Accounts ru nodes [] (charge.map (Charge.mk a.index)).toList 0 (charge.map (.nodeBackoff a.endpoint)).toList := by
  cases charge with
  | none => exact .nil
  | some delay =>
    refine ⟨fun _ _ => rfl, fun _ => rfl, fun _ => rfl, fun endpoint => ?_, rfl⟩
    by_cases he : a.endpoint = endpoint <;> simp [Metric.gauge?, Metric.backoff?, h, he]

theorem attempt (h : nodes a.index = some a.endpoint) (charge : Option Duration) :
    Accounts ru nodes [a] (charge.map (Charge.mk a.index)).toList 0 (a.updates ru charge) := by
  simpa [Attempt.updates] using (charged h charge).append (measured h)

end Accounts

/-! ## Failures that are reported -/

namespace Pool

/-- The delay that the note on an attempt gives to its node, the `k`-th attempt of its call: none unless the node
failed. -/
def charge? (w : World σ) (c : Call) (k : Nat) (a : Attempt) (p : Pool) : Option Duration :=
  if Attempt.outcome? c.retryUnavailable a.result = some .connectionError then
    some (p.failed a.finished (w.draw k) a.index c.cap).1.delay
  else none

/-- The failures that a call on this pool reports, when these are its attempts. Both are latest first. -/
def charges (w : World σ) (c : Call) (p : Pool) : List Attempt → List Charge
  | [] => []
  | a :: earlier =>
    (((p.noteAll w c earlier.reverse).charge? w c (earlier.length + 1) a).map (Charge.mk a.index)).toList ++
      p.charges w c earlier

/-- The endpoint of the node at an index. -/
def endpointAt? (p : Pool) (index : Nat) : Option String := p.members[index]?.map fun m => m.connection.endpoint

variable {w : World σ} {c : Call} {k : Nat} {a : Attempt} {p q : Pool}

/-- The cursor has no part in the delay. -/
theorem charge?_congr (hm : p.members = q.members) (hb : p.backoff = q.backoff) :
    p.charge? w c k a = q.charge? w c k a := by
  unfold charge? failed
  rw [hm, hb]
  cases q.members[a.index]? <;> rfl

theorem endpointAt?_congr (h : p.members.map Member.connection = q.members.map Member.connection) :
    p.endpointAt? = q.endpointAt? := by
  funext i
  have := congrArg (fun cs => cs[i]?.map Connection.endpoint) h
  simpa [endpointAt?, Function.comp_def] using this

end Pool

/-! ## A call -/

/-- The progress that a turn leads to. -/
def Turn.progress : Turn σ → Progress σ
  | .again p => p
  | .ended _ p => p

namespace Progress
variable {t : Transport} {w : World σ} {c : Call} {network : σ} {p q : Progress σ} {o : Opening} {a : Attempt}
  {k : Nat}

theorem History.ended (h : History t w c network p) {r : Except TransportError Json}
    (hend : p.step w c = some (.ended r q)) : History t w c network q := by
  rcases step_ended hend with ⟨-, -, hn, -, ha, hpool⟩ | ⟨o, a, ht, -⟩
  · refine h.unchanged hn ha ?_ ?_ <;> rw [hpool] <;> split <;> rfl
  · exact h.tried ht

/-! ### The updates of a turn -/

theorem metrics_fail (p : Progress σ) (e : RequestError) (hn : p.now = a.finished)
    (ho : Attempt.outcome? c.retryUnavailable a.result = some .connectionError) :
    (p.fail w c a e).report.metrics =
      a.updates c.retryUnavailable (p.pool.charge? w c p.attempts.length a) ++ p.report.metrics := by
  have hcharge : p.pool.charge? w c p.attempts.length a =
      some (p.pool.failed p.now (w.draw p.attempts.length) a.index c.cap).1.delay := by
    simp [Pool.charge?, ho, hn]
  simp only [Attempt.updates, hcharge, Attempt.measured, ho, fail]
  split <;> rfl

theorem metrics_answered (p : Progress σ) {outcome : AttemptOutcome} (hf : outcome ≠ .connectionError)
    (ho : Attempt.outcome? c.retryUnavailable a.result = some outcome) :
    (p.answered a outcome).report.metrics =
      a.updates c.retryUnavailable (p.pool.charge? w c k a) ++ p.report.metrics := by
  simp [Attempt.updates, Attempt.measured, Pool.charge?, ho, hf, answered, countAttempt, count, Report.count]

/-- After an attempt the metrics have its updates. -/
theorem metrics_settle (p : Progress σ) : (p.settle w c a).progress.report.metrics =
    a.updates c.retryUnavailable (p.pool.charge? w c (p.attempts.length + 1) a) ++ p.report.metrics := by
  cases hr : a.result with
  | ok data =>
    have ho : Attempt.outcome? c.retryUnavailable a.result = some .success := by simp [Attempt.outcome?, hr]
    simp only [settle, hr]
    exact metrics_answered _ (by decide) ho
  | error e =>
    cases hf : e.isNodeFailure c.retryUnavailable with
    | true =>
      have ho : Attempt.outcome? c.retryUnavailable a.result = some .connectionError := by
        simp [Attempt.outcome?, hr, hf]
      cases e with
      | connection url fault =>
        simp only [settle, hr]
        exact metrics_fail _ _ rfl ho
      | http e =>
        simp only [settle, hr, hf, if_true]
        exact metrics_fail _ _ rfl ho
      | header name => cases hf
    | false =>
      cases e with
      | connection url fault => cases hf
      | http e =>
        have ho : Attempt.outcome? c.retryUnavailable a.result = some .httpError := by
          simp [Attempt.outcome?, hr, hf, RequestError.answer?]
        simp only [settle, hr, hf, Bool.false_eq_true, if_false]
        exact metrics_answered _ (by decide) ho
      | header name =>
        simp only [settle, hr, Attempt.updates, Attempt.measured, Pool.charge?]
        rfl

/-- A turn that tries a node adds the updates for the attempt. -/
theorem metrics_tried {turn : Turn σ} (hs : p.step w c = some turn) (ht : Tried w c p o a turn.progress) :
    turn.progress.report.metrics =
      a.updates c.retryUnavailable (p.pool.charge? w c (p.attempts.length + 1) a) ++ p.report.metrics := by
  rw [step_of_opening ht.opening, ht.attempt, Option.map_some, Option.some.injEq] at hs
  rw [← hs, metrics_settle,
    Pool.charge?_congr (p.pool.members_get p.now c.deadline) (p.pool.backoff_get p.now c.deadline)]

/-- A turn that gives up is counted. -/
theorem metrics_of_no_opening {turn : Turn σ} (ho : p.opening? w c = none) (hs : p.step w c = some turn) :
    turn.progress.report.metrics = .timeoutsTotal :: p.report.metrics := by
  unfold step at hs
  by_cases hexp : c.deadline.isExpired p.now
  · simp only [hexp, if_true, Option.some.injEq] at hs
    rw [← hs]; rfl
  · have hexc : (p.pool.get p.now c.deadline).1.exceeds = true := by simpa [opening?, hexp] using ho
    simp only [hexp, hexc, if_true, Bool.false_eq_true, if_false, Option.some.injEq] at hs
    rw [← hs]; rfl

/-- The metrics of a call under way account for its attempts up to here. -/
def Accounted (t : Transport) (w : World σ) (c : Call) (late : Nat) (p : Progress σ) : Prop :=
  Accounts c.retryUnavailable t.pool.endpointAt? p.attempts (t.pool.charges w c p.attempts) late p.report.metrics

/-- **Every turn that tries a node keeps the account**, whatever came of it. -/
theorem Accounted.tried {late : Nat} (h : p.Accounted t w c late) (hist : History t w c network p) {turn : Turn σ}
    (hs : p.step w c = some turn) (ht : Tried w c p o a turn.progress) : turn.progress.Accounted t w c late := by
  have hendpoint : t.pool.endpointAt? a.index = some a.endpoint := by
    obtain ⟨m, hm, hconn, -⟩ := p.pool.get_member p.now c.deadline
    obtain ⟨hindex, hend, -⟩ := Opening.attempt_fields ht.attempt
    rw [← Pool.endpointAt?_congr hist.connections, hindex, hend, ht.handle, Pool.endpointAt?, hm, hconn]; rfl
  -- The pool of the moment and the one that the notes on the earlier attempts give differ in the cursor only.
  have hcharge : p.pool.charge? w c (p.attempts.length + 1) a =
      (t.pool.noteAll w c p.attempts.reverse).charge? w c (p.attempts.length + 1) a :=
    Pool.charge?_congr hist.members (by rw [hist.backoff, Pool.backoff_noteAll])
  rw [Accounted, metrics_tried hs ht, ht.attempts, Pool.charges, ← hcharge, ← Nat.zero_add late]
  exact (Accounts.attempt hendpoint _).append h

/-- A turn that gives up adds itself to the account. -/
theorem Accounted.gaveUp (h : p.Accounted t w c 0) {turn : Turn σ} (ho : p.opening? w c = none)
    (hs : p.step w c = some turn) (ha : turn.progress.attempts = p.attempts) :
    turn.progress.Accounted t w c 1 := by
  rw [Accounted, metrics_of_no_opening ho hs, ha]
  exact Accounts.giveUp.append h

theorem accounted_start (t : Transport) (w : World σ) (c : Call) (now : Instant) (network : σ) :
    (t.start w now network).Accounted t w c 0 := .nil

theorem Reaches.accounted (h : Reaches w c p q) (hist : History t w c network p) (hp : p.Accounted t w c 0) :
    q.Accounted t w c 0 := by
  induction h with
  | refl => exact hp
  | tail hreach hstep ih =>
    obtain ⟨o, a, e, ht, -⟩ := step_again hstep
    exact ih.tried (Reaches.history hreach hist) hstep ht

end Progress

/-! ## What a call adds -/

namespace Attempt
variable {ru : Bool} {a : Attempt} {attempts : List Attempt}

/-- The failures of nodes are counted as errors of the connection, and so are answers that count as failures. -/
theorem outcome?_eq_connectionError_iff : outcome? ru a.result = some .connectionError ↔ a.Failed ru := by
  constructor
  · intro h
    cases hr : a.result with
    | ok data => rw [hr] at h; cases h
    | error e =>
      refine ⟨e, hr, RequestError.isNodeFailure_iff.1 ?_⟩
      cases hf : e.isNodeFailure ru with
      | true => rfl
      | false => simp [outcome?, hr, hf] at h
  · rintro ⟨e, hr, hf⟩
    simp [outcome?, hr, RequestError.isNodeFailure_iff.2 hf]

/-- Failures of nodes count in no other way. -/
theorem countP_outcome?_of_failed (h : ∀ a ∈ attempts, a.Failed ru) (outcome : AttemptOutcome) :
    (attempts.countP fun a => outcome? ru a.result = some outcome) =
      if outcome = .connectionError then attempts.length else 0 := by
  have hall : ∀ a ∈ attempts, outcome? ru a.result = some .connectionError := fun a ha =>
    outcome?_eq_connectionError_iff.2 (h a ha)
  split
  · rename_i heq
    exact List.countP_eq_length.2 fun a ha => by simp [hall a ha, heq]
  · rename_i hne
    exact List.countP_eq_zero.2 fun a ha => by simp [hall a ha, Ne.symm hne]

end Attempt

namespace Metric

/-- What a call with this result adds to the counters over all nodes. -/
inductive Adds (ms : List Metric) : Except TransportError Json → Prop
  | late (errors : List RequestError) (connectionErrors : total ms .connectionError = errors.length)
    (successes : total ms .success = 0) (httpErrors : total ms .httpError = 0) (late : timeouts ms = 1) :
    Adds ms (.error (.timeout errors))
  | data (data : Json) (successes : total ms .success = 1) (httpErrors : total ms .httpError = 0)
    (late : timeouts ms = 0) : Adds ms (.ok data)
  | answer (e : HttpError) (successes : total ms .success = 0) (httpErrors : total ms .httpError = 1)
    (late : timeouts ms = 0) : Adds ms (.error (.request (.http e)))
  | unsent (name : String) (successes : total ms .success = 0) (httpErrors : total ms .httpError = 0)
    (late : timeouts ms = 0) : Adds ms (.error (.request (.header name)))

variable {ru : Bool} {nodes : Nat → Option String} {attempts : List Attempt} {charges : List Charge}
  {ms : List Metric}

theorem adds_of_failed (h : Accounts ru nodes attempts charges 1 ms) (hf : ∀ a ∈ attempts, a.Failed ru)
    {errors : List RequestError} (he : attempts.map Attempt.result = errors.map .error) :
    Adds ms (.error (.timeout errors.reverse)) := by
  have hlen : attempts.length = errors.reverse.length := by simpa using congrArg List.length he
  have htotal := fun outcome => (h.total outcome).trans (Attempt.countP_outcome?_of_failed hf outcome)
  exact .late _ ((htotal _).trans hlen) (htotal _) (htotal _) h.timeouts

theorem adds_of_verdict {a : Attempt} (h : Accounts ru nodes (a :: attempts) charges 0 ms)
    (hf : ∀ b ∈ attempts, b.Failed ru) {r : Except TransportError Json} (hv : Progress.Verdict ru a r) :
    Adds ms r := by
  -- All attempts before the last one count as errors of the connection, so the last one decides on the rest.
  have htotal : ∀ outcome, outcome ≠ .connectionError →
      total ms outcome = if Attempt.outcome? ru a.result = some outcome then 1 else 0 := by
    intro outcome hne
    rw [h.total, List.countP_cons, Attempt.countP_outcome?_of_failed hf, if_neg hne, Nat.zero_add]
    simp
  cases hv with
  | data hr =>
    have ho : Attempt.outcome? ru a.result = some .success := by simp [Attempt.outcome?, hr]
    exact .data _ (by simp [htotal, ho]) (by simp [htotal, ho]) h.timeouts
  | @error e hr hn =>
    cases e with
    | connection url fault => cases hn
    | http e =>
      have ho : Attempt.outcome? ru a.result = some .httpError := by
        simp [Attempt.outcome?, hr, hn, RequestError.answer?]
      exact .answer e (by simp [htotal, ho]) (by simp [htotal, ho]) h.timeouts
    | header name =>
      have ho : Attempt.outcome? ru a.result = none := by simp [Attempt.outcome?, hr, hn, RequestError.answer?]
      exact .unsent name (by simp [htotal, ho]) (by simp [htotal, ho]) h.timeouts

end Metric

namespace Transport
variable {t u : Transport} {w : World σ} {turns : Nat} {request : Request} {now : Instant} {network : σ}
  {out : Outcome σ}

/-- A finished call is reported as its last turn left the report. -/
theorem forward_reported (h : t.forward w turns request now network = some out) :
    ∃ p q, Progress.Reaches w (t.call request now) (t.start w now network) p ∧
      p.step w (t.call request now) = some (.ended out.result q) ∧ out.attempts.reverse = q.attempts ∧
      out.report = q.report := by
  obtain ⟨⟨r, q⟩, hrun, rfl⟩ := Option.map_eq_some_iff.1 h
  obtain ⟨p, hreach, hend⟩ := Progress.run_eq_some hrun
  exact ⟨p, q, hreach, hend, List.reverse_reverse _, rfl⟩

/-- Whether the call came to nothing because its time was over. -/
def timedOut : Except TransportError Json → Bool
  | .ok _ => false
  | .error e => e.isTimeout

theorem timedOut_of_verdict {ru : Bool} {a : Attempt} {r : Except TransportError Json}
    (hv : Progress.Verdict ru a r) : timedOut r = false := by
  cases hv <;> rfl

/-- A call changes nothing of a transport that tells its metrics apart. -/
theorem forward_fixed (h : t.forward w turns request now network = some out) :
    out.transport.retryUnavailable = t.retryUnavailable ∧
      out.transport.pool.endpointAt? = t.pool.endpointAt? := by
  obtain ⟨p, q, hreach, hend, -, -, -, htr⟩ := forward_eq_some h
  have hist := (hreach.history (Progress.history_start t w _ now network)).ended hend
  rw [htr]
  exact ⟨rfl, Pool.endpointAt?_congr hist.connections⟩

/-- **The metrics of a call** account for its attempts, and add to the counters what its result says. -/
theorem forward_accounts (h : t.forward w turns request now network = some out) :
    Accounts t.retryUnavailable t.pool.endpointAt? out.attempts.reverse
      (t.pool.charges w (t.call request now) out.attempts.reverse) (if timedOut out.result then 1 else 0)
      out.report.metrics ∧ Metric.Adds out.report.metrics out.result := by
  obtain ⟨p, q, hreach, hend, hatt, hrep⟩ := forward_reported h
  rw [hatt, hrep]
  have hstart := Progress.history_start t w (t.call request now) now network
  have hacc := hreach.accounted hstart (Progress.accounted_start t w _ now network)
  have hfail : p.Failing (t.call request now) := hreach.failing ⟨rfl, by simp [Transport.start]⟩
  rcases Progress.step_ended hend with ⟨ho, hr, -, -, ha, -⟩ | ⟨o, a, ht, hv⟩
  · have hq : q.Accounted t w (t.call request now) 1 := hacc.gaveUp ho hend ha
    rw [hr]
    refine ⟨hq, Metric.adds_of_failed hq ?_ ?_⟩ <;> rw [ha]
    · exact hfail.failed
    · exact hfail.results
  · have hq : q.Accounted t w (t.call request now) 0 := hacc.tried (hreach.history hstart) hend ht
    have hadds : Metric.Adds q.report.metrics out.result := by
      have hq := hq
      rw [Progress.Accounted, ht.attempts] at hq
      exact Metric.adds_of_verdict hq hfail.failed hv
    rw [timedOut_of_verdict hv]
    exact ⟨hq, hadds⟩

end Transport

/-! ## A session -/

/-- One call of a session: what it was given, and what it came to. -/
structure Service (σ : Type) where
  before : Transport
  world : World σ
  request : Request
  now : Instant
  network : σ
  outcome : Outcome σ

namespace Service

/-- The attempts of these calls. Here and below calls and what belongs to them are latest first. -/
def attempts (calls : List (Service σ)) : List Attempt := calls.flatMap fun x => x.outcome.attempts.reverse

/-- The failures that these calls reported. -/
def charges (calls : List (Service σ)) : List Charge := calls.flatMap fun x =>
  x.before.pool.charges x.world (x.before.call x.request x.now) x.outcome.attempts.reverse

/-- The updates of the metrics by these calls. -/
def metrics (calls : List (Service σ)) : List Metric := calls.flatMap fun x => x.outcome.report.metrics

end Service

namespace Transport

/-- `calls` are made on the transport `t`, one after the other, each in a world of its own, and leave `u`. -/
inductive Session (t : Transport) : List (Service σ) → Transport → Prop
  | nil : Session t [] t
  | cons {calls : List (Service σ)} {x : Service σ} (turns : Nat) (h : Session t calls x.before)
    (hx : x.before.forward x.world turns x.request x.now x.network = some x.outcome) :
    Session t (x :: calls) x.outcome.transport

variable {t u : Transport} {calls : List (Service σ)}

theorem Session.fixed (h : t.Session calls u) :
    u.retryUnavailable = t.retryUnavailable ∧ u.pool.endpointAt? = t.pool.endpointAt? := by
  induction h with
  | nil => exact ⟨rfl, rfl⟩
  | cons turns h hx ih =>
    have hcall := forward_fixed hx
    exact ⟨hcall.1.trans ih.1, hcall.2.trans ih.2⟩

/-- The metrics of a session, call by call. -/
theorem Session.accounts (h : t.Session calls u) : Accounts t.retryUnavailable t.pool.endpointAt?
    (Service.attempts calls) (Service.charges calls) (calls.countP fun x => timedOut x.outcome.result)
    (Service.metrics calls) := by
  induction h with
  | nil => exact .nil
  | @cons calls x turns h hx ih =>
    have hfixed := h.fixed
    have hcall := (forward_accounts hx).1
    rw [hfixed.1, hfixed.2] at hcall
    rw [List.countP_cons, Nat.add_comm]
    exact hcall.append ih

/-- **Metrics account for every attempt** of a session: the counters by endpoint and outcome, as many durations as
counted attempts, the backoff from the last failure that was reported of a node with that endpoint, and what each
call adds. -/
theorem metrics_account (h : t.Session calls u) :
    (∀ endpoint outcome, Metric.requests (Service.metrics calls) endpoint outcome =
      (Service.attempts calls).countP fun a => t.pool.endpointAt? a.index = some endpoint ∧
        Attempt.outcome? t.retryUnavailable a.result = some outcome) ∧
    (∀ endpoint, (Metric.samples (Service.metrics calls) endpoint).length =
      Metric.requests (Service.metrics calls) endpoint .success +
        Metric.requests (Service.metrics calls) endpoint .httpError +
        Metric.requests (Service.metrics calls) endpoint .connectionError) ∧
    (∀ endpoint, Metric.gauge? (Service.metrics calls) endpoint =
      ((Service.charges calls).find? fun x => t.pool.endpointAt? x.index = some endpoint).map Charge.delay) ∧
    ∀ x ∈ calls, Metric.Adds x.outcome.report.metrics x.outcome.result := by
  refine ⟨h.accounts.requests, h.accounts.length_samples, h.accounts.gauge, ?_⟩
  induction h with
  | nil => simp
  | cons turns h hx ih => exact List.forall_mem_cons.2 ⟨(forward_accounts hx).2, ih⟩

/-- The first call ends with an answer of the second node, and the time of the second call is over after three
failures. -/
theorem metrics_account_pair : ∃ (t u : Transport) (calls : List (Service Script)), t.Session calls u ∧
    calls.map (fun x => x.outcome.attempts.length) = [3, 2] ∧
    ((Service.attempts calls).countP fun a => t.pool.endpointAt? a.index = some "http://b:9984" ∧
      Attempt.outcome? t.retryUnavailable a.result = some .connectionError) = 2 ∧
    ∀ x ∈ calls, Metric.Adds x.outcome.report.metrics x.outcome.result := by
  let t := pair Health.fresh Health.fresh (some (Duration.ofMillis 900)) true
  let w := World.exact Script.network
  let script := Script.pair (1, .drop) (1, .reply ⟨404, none, []⟩)
  let script' := Script.pair (1, .reply ⟨503, none, []⟩) (1, .drop)
  have hrun : ((t.forward w 3 Request.get 0 script).bind fun first =>
      (first.transport.forward w 4 Request.get 2000000 script').map fun second =>
        ([second.attempts.length, first.attempts.length],
          Metric.requests (second.report.metrics ++ first.report.metrics) "http://b:9984" .connectionError)) =
      some ([3, 2], 2) := by decide +kernel
  obtain ⟨first, hfirst, hrun⟩ := Option.bind_eq_some_iff.1 hrun
  obtain ⟨second, hsecond, hout⟩ := Option.map_eq_some_iff.1 hrun
  obtain ⟨hlen, hcount⟩ := Prod.mk.inj hout
  let calls : List (Service Script) := [⟨first.transport, w, Request.get, 2000000, script', second⟩,
    ⟨t, w, Request.get, 0, script, first⟩]
  have hsession : t.Session calls second.transport := .cons 4 (.cons 3 .nil hfirst) hsecond
  obtain ⟨hrequests, -, -, hadds⟩ := metrics_account hsession
  refine ⟨t, _, calls, hsession, hlen, ?_, hadds⟩
  rw [← hrequests, ← hcount]
  simp [calls, Service.metrics]

end Transport
end FederatedLedger
