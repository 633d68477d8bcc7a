import FederatedLedger.Config.Basic

/-!
# Checking a configuration

`Config.problems` lists everything that is wrong with a configuration, in the order of its fields: names
that mean no node, header names that no request can carry, and numbers that make no sense.
-/

namespace FederatedLedger

/-- Something that is wrong with a configuration (`ValidationError`). -/
inductive ConfigProblem where
  | invalidNode (index : Nat) (cause : NodeError)
  | invalidHeaderName (name : String)
  | invalidTimeout (seconds : Binary64)
  | zeroInitialDelay
  | maxRetriesTooLarge (maxRetries : UInt32)
  | zeroBackoffCap
  | unknownLogLevel (level : String)
deriving DecidableEq, Repr

/-- The largest count of failures at which the doubling of delays may stop (`MAX_RETRIES_LIMIT`). -/
def maxRetriesLimit : UInt32 := 31

/-- The levels of a log (`LOG_LEVELS`). -/
def logLevels : List String := ["trace", "debug", "info", "warn", "error"]

/-- The wording of a problem. -/
def ConfigProblem.message : ConfigProblem → String
  | .invalidNode index cause => "nodes[" ++ toString index ++ "]: " ++ cause.message
  | .invalidHeaderName name => "header name '" ++ name ++ "' is not a valid HTTP header"
  | .invalidTimeout seconds =>
    "transport.timeout_secs must be a positive number, got " ++ seconds.plainText
  | .zeroInitialDelay => "backoff.initial_delay_ms must be greater than zero"
  | .maxRetriesTooLarge maxRetries =>
    "backoff.max_retries must be at most " ++ toString maxRetriesLimit.toNat ++ ", got " ++
      toString maxRetries.toNat
  | .zeroBackoffCap => "backoff.no_timeout_cap_secs must be greater than zero"
  | .unknownLogLevel level =>
    "observability.log_level '" ++ level ++ "' is not one of " ++ String.intercalate ", " logLevels

/-- The names among headers that no request can carry (`check_header_name`). -/
def Headers.problems (hs : Headers) : List ConfigProblem :=
  ((hs.map Prod.fst).filter fun name => !Headers.isName name).map .invalidHeaderName

/-- What is wrong with a node at some place in the list: its name first, then the names of its headers. -/
def NodeSpec.problems (index : Nat) (s : NodeSpec) : List ConfigProblem :=
  (match Endpoint.normalize s.endpoint with
    | .ok _ => []
    | .error cause => [.invalidNode index cause]) ++ s.headers.problems

/-- A budget has to be finite and more than nothing. -/
def CallConfig.problems (c : CallConfig) : List ConfigProblem :=
  match c.timeoutSecs with
  | none => []
  | some x => if x.isFinite ∧ x.isPositive then [] else [.invalidTimeout x]

def BackoffConfig.problems (c : BackoffConfig) : List ConfigProblem :=
  (if c.initialDelayMs = 0 then [.zeroInitialDelay] else []) ++
  (if maxRetriesLimit < c.maxRetries then [.maxRetriesTooLarge c.maxRetries] else []) ++
  (if c.noTimeoutCapSecs = 0 then [.zeroBackoffCap] else [])

def LogConfig.problems (c : LogConfig) : List ConfigProblem :=
  if logLevels.contains (asciiLower c.level) then [] else [.unknownLogLevel c.level]

/-- Everything that is wrong with a configuration (`validate_config`). -/
def Config.problems (c : Config) : List ConfigProblem :=
  (c.nodes.mapIdx NodeSpec.problems).flatten ++ c.headers.problems ++ c.calls.problems ++
    c.backoff.problems ++ c.logging.problems

/-- Whether nothing is wrong with a configuration. -/
def Config.isValid (c : Config) : Bool := c.problems.isEmpty

end FederatedLedger
