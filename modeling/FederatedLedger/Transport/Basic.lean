import FederatedLedger.Transport.Call

/-!
# The transport

A transport has nodes, their health, and the options of calls. `Transport.forward` sends a request to
whichever node answers: a call with the budget of the request, or else with the usual one.
-/

namespace FederatedLedger

/-- The options of a transport. -/
structure TransportOptions where
  /-- The time budget of a call; without one it goes on until a node answers. -/
  timeout : Option Duration
  backoff : Backoff
  /-- Whether answers that a node cannot serve for now count as failures of the node. -/
  retryUnavailable : Bool
deriving DecidableEq, Repr

namespace TransportOptions

def standard : TransportOptions := ⟨none, Backoff.standard, false⟩

/-- The usual options but for the budget (`TransportOptions::with_timeout`). -/
def withTimeout (timeout : Option Duration) : TransportOptions := { standard with timeout }

end TransportOptions

/-- Nodes that calls can be sent to. -/
structure Transport where
  nodes : List Node
  pool : Pool
  timeout : Option Duration
  retryUnavailable : Bool

/-- What a call came to. -/
structure Outcome (σ : Type) where
  result : Except TransportError Json
  transport : Transport
  /-- When the call ended. -/
  finished : Instant
  network : σ
  /-- The attempts, in order. -/
  attempts : List Attempt
  report : Report

namespace Transport

/-- A transport to these nodes, and what it logs (`Transport::new`). -/
def ofNodes (nodes : List Node) (options : TransportOptions) :
    Except TransportError (Transport × Report) := do
  let pool ← Pool.ofNodes nodes options.backoff
  return ({ nodes, pool, timeout := options.timeout, retryUnavailable := options.retryUnavailable },
    Report.empty.log (.transportReady nodes.length options.timeout))

/-- The call for a request that starts now. -/
def call (t : Transport) (request : Request) (now : Instant) : Call :=
  let deadline : Deadline := ⟨now, request.timeout.or t.timeout⟩
  { request, deadline
    cap := t.pool.backoff.capFor deadline
    retryUnavailable := t.retryUnavailable }

/-- A call before its first turn. -/
def start (t : Transport) (w : World σ) (now : Instant) (network : σ) : Progress σ :=
  { now := now + w.lag, pool := t.pool, network, attempts := [], errors := [], report := Report.empty }

/-- Sends a request (`Transport::forward_request`). There is no outcome if the call does not end within so many
turns. -/
def forward (t : Transport) (w : World σ) (turns : Nat) (request : Request) (now : Instant)
    (network : σ) : Option (Outcome σ) :=
  (Progress.run w (t.call request now) turns (t.start w now network)).map fun (result, p) =>
    { result, transport := { t with pool := p.pool }, finished := p.now, network := p.network
      attempts := p.attempts.reverse, report := p.report }

end Transport
end FederatedLedger
