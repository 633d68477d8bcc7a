import FederatedLedger.Node
import FederatedLedger.Transport.Basic

/-!
# Configuration

A configuration names the nodes of a federation and says how to talk to them. Every section and every field
has a usual value, so an empty configuration is one. `Config.read?` takes a configuration from a document, and
`Config.toJson` writes every field.
-/

namespace FederatedLedger

/-- How calls are made (`TransportConfig`). -/
structure CallConfig where
  /-- The time budget of a call in seconds. -/
  timeoutSecs : Option Binary64
  /-- Whether to try another node when one says that it cannot answer for now. -/
  retryUnavailable : Bool
deriving DecidableEq, Repr

/-- How long nodes that failed are left alone. -/
structure BackoffConfig where
  initialDelayMs : UInt64
  maxRetries : UInt32
  noTimeoutCapSecs : UInt64
  jitter : Bool
deriving DecidableEq, Repr

/-- What is written to the log (`ObservabilityConfig`). -/
structure LogConfig where
  level : String
deriving DecidableEq, Repr

/-- A configuration (`DriverConfig`). -/
structure Config where
  nodes : List NodeSpec
  headers : Headers
  calls : CallConfig
  backoff : BackoffConfig
  logging : LogConfig
deriving DecidableEq, Repr

def CallConfig.standard : CallConfig := ⟨none, false⟩
def BackoffConfig.standard : BackoffConfig := ⟨500, 10, 10, false⟩
def LogConfig.standard : LogConfig := ⟨"info"⟩

/-- The configuration that says nothing (`DriverConfig::default`). -/
def Config.standard : Config := ⟨[], [], CallConfig.standard, BackoffConfig.standard, LogConfig.standard⟩

/-! ## Writing -/

def CallConfig.toJson (c : CallConfig) : Json :=
  .object [("timeout_secs", .ofOption (fun x => .number (.float x)) c.timeoutSecs),
    ("retry_unavailable", .bool c.retryUnavailable)]

def BackoffConfig.toJson (c : BackoffConfig) : Json :=
  .object [("initial_delay_ms", .ofNat c.initialDelayMs.toNat), ("max_retries", .ofNat c.maxRetries.toNat),
    ("no_timeout_cap_secs", .ofNat c.noTimeoutCapSecs.toNat), ("jitter", .bool c.jitter)]

def LogConfig.toJson (c : LogConfig) : Json := .object [("log_level", .string c.level)]

def Config.toJson (c : Config) : Json :=
  .object [("nodes", .array (c.nodes.map NodeSpec.toJson)), ("headers", .ofTexts c.headers),
    ("transport", c.calls.toJson), ("backoff", c.backoff.toJson), ("observability", c.logging.toJson)]

/-! ## Reading -/

/-- How the fields of a section are taken from an array that is longer than their number: not at all, or
without the rest. -/
inductive Surplus where
  | refused
  | ignored
deriving DecidableEq, Repr

/-- The fields of a section. -/
def Surplus.record? (s : Surplus) (names : List String) (room : Nat) (d : Document) : Option Record :=
  match s, d with
  | .ignored, .array items => (Document.array (items.take names.length)).record? names room
  | _, d => d.record? names room

def word64? (d : Document) : Option UInt64 := (d.natural? UInt64.size).map UInt64.ofNat
def word32? (d : Document) : Option UInt32 := (d.natural? UInt32.size).map UInt32.ofNat

def CallConfig.read? (s : Surplus) (room : Nat) (d : Document) : Option CallConfig := do
  let r ← s.record? ["timeout_secs", "retry_unavailable"] room d
  return {
    timeoutSecs := ← r.defaulted? "timeout_secs" none (Document.optional? Document.float?)
    retryUnavailable := ← r.defaulted? "retry_unavailable" false Document.bool? }

def BackoffConfig.read? (s : Surplus) (room : Nat) (d : Document) : Option BackoffConfig := do
  let r ← s.record? ["initial_delay_ms", "max_retries", "no_timeout_cap_secs", "jitter"] room d
  let usual := BackoffConfig.standard
  return {
    initialDelayMs := ← r.defaulted? "initial_delay_ms" usual.initialDelayMs word64?
    maxRetries := ← r.defaulted? "max_retries" usual.maxRetries word32?
    noTimeoutCapSecs := ← r.defaulted? "no_timeout_cap_secs" usual.noTimeoutCapSecs word64?
    jitter := ← r.defaulted? "jitter" usual.jitter Document.bool? }

def LogConfig.read? (s : Surplus) (room : Nat) (d : Document) : Option LogConfig := do
  let r ← s.record? ["log_level"] room d
  return ⟨← r.defaulted? "log_level" LogConfig.standard.level Document.string?⟩

/-- Reads a configuration. -/
def Config.read? (s : Surplus) (room : Nat) (d : Document) : Option Config := do
  let r ← s.record? ["nodes", "headers", "transport", "backoff", "observability"] room d
  let inner := room - 1
  return {
    nodes := ← r.defaulted? "nodes" [] (Document.list? NodeSpec.read? inner)
    headers := ← r.defaulted? "headers" [] (Document.texts? inner)
    calls := ← r.defaulted? "transport" CallConfig.standard (CallConfig.read? s inner)
    backoff := ← r.defaulted? "backoff" BackoffConfig.standard (BackoffConfig.read? s inner)
    logging := ← r.defaulted? "observability" LogConfig.standard (LogConfig.read? s inner) }

/-! ## Meaning -/

namespace Config

/-- The time budget of a call (`DriverConfig::timeout`). Seconds that are no duration are none. -/
def timeout (c : Config) : Option Duration := c.calls.timeoutSecs.bind Duration.ofSeconds?

/-- How failed nodes are left alone. -/
def policy (c : Config) : Backoff :=
  { initialDelay := Duration.ofMillis c.backoff.initialDelayMs.toNat
    maxRetries := c.backoff.maxRetries.toNat
    noTimeoutCap := Duration.ofSecs c.backoff.noTimeoutCapSecs.toNat
    jitter := c.backoff.jitter }

/-- The options of the transport (`DriverConfig::transport_options`). -/
def options (c : Config) : TransportOptions :=
  { timeout := c.timeout, backoff := c.policy, retryUnavailable := c.calls.retryUnavailable }

end Config
end FederatedLedger
