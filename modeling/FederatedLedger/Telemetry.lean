import FederatedLedger.Text.Encoding
import FederatedLedger.Time

/-!
# What a client tells about itself

Events are lines of the log: a level, a text and fields (`Event.line`). Metrics count and measure: attempts by node and
outcome, how long they took, how long nodes are left alone, and calls whose time was over. A report holds both for a
stretch of work, latest first; `Report.lines` and `Report.metricLines` give them in order.
-/

namespace FederatedLedger

/-! ## Log events -/

/-- The levels of a log. -/
inductive LogLevel where
  | debug
  | info
  | warn
deriving DecidableEq, Repr

/-- Something that happened. -/
inductive Event where
  | transportReady (nodes : Nat) (timeout : Option Duration)
  | clientReady (nodes : List String)
  | backoffStarted (node : String) (retries : Nat) (delay : Duration)
  /-- Attempts are numbered from 1, without a bound; `Transport::forward_request` numbers them in 32 bits. -/
  | attemptFailed (node : String) (attempt : Nat) (delay : Duration)
  | waitTooLong (node : String) (wait : Duration)
  | budgetSpent (attempts : Nat) (elapsed : Duration)
  | errorStatus (url : String) (status : Nat)
  | rejectedUnsent (node : String)
deriving DecidableEq, Repr

def LogLevel.text : LogLevel → String
  | .debug => "DEBUG"
  | .info => "INFO"
  | .warn => "WARN"

namespace Event

def level : Event → LogLevel
  | .clientReady _ => .info
  | .attemptFailed .. => .warn
  | .budgetSpent .. => .warn
  | _ => .debug

/-- The text of an event, without its fields. -/
def title : Event → String
  | .transportReady .. => "transport initialized"
  | .clientReady _ => "ledger client initialized"
  | .backoffStarted .. => "node placed in backoff"
  | .attemptFailed .. => "node request failed, trying next node"
  | .waitTooLong .. => "next node leaves backoff after the deadline"
  | .budgetSpent .. => "request budget exhausted"
  | .errorStatus .. => "node answered with error status"
  | .rejectedUnsent _ => "request rejected before sending"

/-- The milliseconds of a duration in a field. -/
def millis (d : Duration) : String := toString d.millisWord.toNat

/-- The names and values of the fields, in order. -/
def fields : Event → List (String × String)
  | .transportReady nodes timeout =>
    ("nodes", toString nodes) ::
      (match timeout with
        | none => []
        | some t => [("timeout_ms", millis t)])
  | .clientReady nodes => [("nodes", Quoted.texts nodes)]
  | .backoffStarted node retries delay =>
    [("node", node), ("retries", toString retries), ("backoff_ms", millis delay)]
  | .attemptFailed node attempt delay =>
    [("node", node), ("attempt", toString attempt), ("backoff_ms", millis delay)]
  | .waitTooLong node wait => [("node", node), ("wait_ms", millis wait)]
  | .budgetSpent attempts elapsed =>
    [("attempts", toString attempts), ("elapsed_ms", millis elapsed)]
  | .errorStatus url status => [("url", url), ("status", toString status)]
  | .rejectedUnsent node => [("node", node)]

/-- An event as a line of the log. -/
def line (e : Event) : String :=
  e.level.text ++ " " ++ e.title ++ String.join (e.fields.map fun (k, v) => " " ++ k ++ "=" ++ v)

end Event

/-! ## Metrics -/

/-- How an attempt ended, as it is counted (`Outcome`). -/
inductive AttemptOutcome where
  | success
  | httpError
  | connectionError
deriving DecidableEq, Repr

/-- One update of the metrics. -/
inductive Metric where
  /-- One more attempt. -/
  | requestsTotal (node : String) (outcome : AttemptOutcome)
  /-- How long an attempt took. Both come from `record_request`. -/
  | requestDuration (node : String) (elapsed : Duration)
  /-- How long a node is left alone (`record_backoff`). -/
  | nodeBackoff (node : String) (delay : Duration)
  /-- One more call whose time was over (`record_timeout`). -/
  | timeoutsTotal
deriving DecidableEq, Repr

/-- The label of an outcome (`Outcome::as_str`). -/
def AttemptOutcome.text : AttemptOutcome → String
  | .success => "success"
  | .httpError => "http_error"
  | .connectionError => "connection_error"

namespace Metric

/-- A metric with its labels. -/
def labelled (name : String) (labels : List (String × String)) : String :=
  "ledger_driver_" ++ name ++ "\x7b" ++
    String.intercalate "," (labels.map fun (k, v) => k ++ "=" ++ v) ++ "\x7d"

/-- An update as a line: `+` adds to a counter, `=` sets a gauge and `<-` adds a sample. -/
def line : Metric → String
  | .requestsTotal node outcome =>
    labelled "requests_total" [("node", node), ("outcome", outcome.text)] ++ " + 1"
  | .requestDuration node elapsed =>
    labelled "request_duration_seconds" [("node", node)] ++ " <- " ++ elapsed.seconds.plainText
  | .nodeBackoff node delay =>
    labelled "node_backoff_seconds" [("node", node)] ++ " = " ++ delay.seconds.plainText
  | .timeoutsTotal => labelled "timeouts_total" [] ++ " + 1"

end Metric

/-! ## Reports -/

/-- Events and metric updates, latest first. -/
structure Report where
  events : List Event
  metrics : List Metric
deriving Repr

namespace Report

def empty : Report := ⟨[], []⟩

def log (r : Report) (e : Event) : Report := { r with events := e :: r.events }

def count (r : Report) (m : Metric) : Report := { r with metrics := m :: r.metrics }

/-- The lines of the log, in order. -/
def lines (r : Report) : List String := r.events.reverse.map Event.line

/-- The lines of the metric updates, in order. -/
def metricLines (r : Report) : List String := r.metrics.reverse.map Metric.line

end Report

end FederatedLedger
