import FederatedLedger.Pool.Basic
import FederatedLedger.Telemetry
import FederatedLedger.Transport.Network

/-!
# Calls

A call tries one node after the other until an answer comes or its time is over. `Progress.step` is one turn
of it: choose a node, wait until it is out of backoff, try it, and take note of how that went. A failure that
another node may mend leads to the next turn; any other end of an attempt is the end of the call.
-/

namespace FederatedLedger

/-- What stays the same during a call of `Transport::forward_request`. -/
structure Call where
  request : Request
  deadline : Deadline
  /-- The longest backoff that the call gives. -/
  cap : Duration
  retryUnavailable : Bool

/-- One try of one node. -/
structure Attempt where
  index : Nat
  endpoint : String
  /-- When the node was chosen; the call slept from then until it started the attempt. -/
  chosen : Instant
  started : Instant
  finished : Instant
  /-- The time that the attempt was given. -/
  budget : Option Duration
  /-- What came to the node, if anything did. -/
  received : Option Outgoing
  result : Except RequestError Json

/-- A call under way. Attempts and errors are kept latest first. The number of an attempt is the length of the
list, a natural number; `Transport::forward_request` counts in 32 bits. -/
structure Progress (σ : Type) where
  now : Instant
  pool : Pool
  network : σ
  attempts : List Attempt
  errors : List RequestError
  report : Report

/-- What a turn of a call leads to. -/
inductive Turn (σ : Type) where
  | again (p : Progress σ)
  | ended (result : Except TransportError Json) (p : Progress σ)

namespace Attempt

/-- How an attempt is counted, if it is. -/
def outcome? (retryUnavailable : Bool) : Except RequestError Json → Option AttemptOutcome
  | .ok _ => some .success
  | .error e =>
    if e.isNodeFailure retryUnavailable then some .connectionError
    else if e.answer?.isSome then some .httpError
    else none

/-- Tries a node (`Connection::request`). A request that cannot be composed takes no time. -/
def run (w : World σ) (network : σ) (h : Handle) (request : Request) (chosen started : Instant)
    (budget : Option Duration) : Option (Attempt × σ) :=
  let ended (finished : Instant) (received : Option Outgoing) (result : Except RequestError Json) : Attempt :=
    { index := h.index, endpoint := h.connection.endpoint, chosen, started, finished, budget, received
      result }
  match h.connection.compose request with
  | .error e => some (ended started none (.error e), network)
  | .ok out =>
    let address := h.connection.urlFor request.path
    (w.network.send network started out budget).map fun (x, network) =>
      let result := match x.reply with
        | .error fault => .error (.connection address fault)
        | .ok reply => Connection.interpret address reply
      (ended (started + x.elapsed.nanos) (if x.received then some out else none) result, network)

end Attempt

namespace Progress

def log (p : Progress σ) (e : Event) : Progress σ := { p with report := p.report.log e }

def count (p : Progress σ) (m : Metric) : Progress σ := { p with report := p.report.count m }

/-- Counts an attempt and how long it took (`record_request`). -/
def countAttempt (p : Progress σ) (a : Attempt) (outcome : AttemptOutcome) : Progress σ :=
  (p.count (.requestsTotal a.endpoint outcome)).count
    (.requestDuration a.endpoint (a.finished.since a.started))

/-- Ends a call whose time is over: what `Transport::forward_request` does after its loop. -/
def giveUp (c : Call) (p : Progress σ) : Turn σ :=
  .ended (.error (.timeout p.errors.reverse))
    ((p.count .timeoutsTotal).log
      (.budgetSpent p.attempts.length (p.now.since c.deadline.started)))

/-- Takes note that an attempt failed and that another node may mend it. -/
def fail (w : World σ) (c : Call) (a : Attempt) (e : RequestError) (p : Progress σ) : Progress σ :=
  let p := p.countAttempt a .connectionError
  let (penalty, pool) := p.pool.failed p.now (w.draw p.attempts.length) a.index c.cap
  let p := { p with pool, errors := e :: p.errors }
  let p := match penalty.retries with
    | some retries => p.log (.backoffStarted a.endpoint retries penalty.delay)
    | none => p
  (p.count (.nodeBackoff a.endpoint penalty.delay)).log
    (.attemptFailed a.endpoint p.attempts.length penalty.delay)

/-- Takes note that a node answered. -/
def answered (a : Attempt) (outcome : AttemptOutcome) (p : Progress σ) : Progress σ :=
  let p := p.countAttempt a outcome
  { p with pool := p.pool.succeeded a.index }

/-- Goes on after an attempt. -/
def settle (w : World σ) (c : Call) (a : Attempt) (p : Progress σ) : Turn σ :=
  let p := { p with now := a.finished, attempts := a :: p.attempts }
  match a.result with
  | .ok data => .ended (.ok data) (p.answered a .success)
  | .error (.http e) =>
    let p := p.log (.errorStatus e.url e.status)
    if (RequestError.http e).isNodeFailure c.retryUnavailable then .again (p.fail w c a (.http e))
    else .ended (.error (.request (.http e))) (p.answered a .httpError)
  | .error (.connection url fault) => .again (p.fail w c a (.connection url fault))
  | .error (.header name) =>
    .ended (.error (.request (.header name))) (p.log (.rejectedUnsent a.endpoint))

/-- One turn of a call, if it ends: the body of the loop of `Transport::forward_request`. -/
def step (w : World σ) (c : Call) (p : Progress σ) : Option (Turn σ) :=
  if c.deadline.isExpired p.now then some (p.giveUp c)
  else
    let (h, pool) := p.pool.get p.now c.deadline
    let p := { p with pool }
    if h.exceeds then
      some ((p.log (.waitTooLong h.connection.endpoint h.wait)).giveUp c)
    else
      let started := w.wake p.now h.wait
      let budget := c.deadline.remaining started
      (Attempt.run w p.network h c.request p.now started budget).map fun (a, network) =>
        ({ p with network }).settle w c a

/-- The turns of a call, at most as many as `turns` (`Transport::forward_request`). -/
def run (w : World σ) (c : Call) : Nat → Progress σ → Option (Except TransportError Json × Progress σ)
  | 0, _ => none
  | turns + 1, p =>
    match p.step w c with
    | none => none
    | some (.again p) => run w c turns p
    | some (.ended result p) => some (result, p)

end Progress
end FederatedLedger
