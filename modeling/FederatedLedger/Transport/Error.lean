import FederatedLedger.Node

/-!
# What can go wrong with a request

An attempt on one node ends without an answer, with an answer that is an error, or before anything is sent.
`RequestError.isNodeFailure` says which of these another node may mend. A call over all nodes fails with the
error of an attempt, or with all of them when its time is over.
-/

namespace FederatedLedger

/-- Why no answer came from a node. -/
inductive LinkFault where
  /-- The address of the request cannot be read. -/
  | address (cause : UrlError)
  | unreachable
  /-- The answer broke off. -/
  | brokenOff
  /-- The time for the attempt was over. -/
  | late
deriving DecidableEq, Repr

/-- The wording of the fault. -/
def LinkFault.message : LinkFault → String
  | .address cause => "invalid address: " ++ cause.message
  | .unreachable => "node unreachable"
  | .brokenOff => "answer incomplete"
  | .late => "time over"

/-- The statuses that have names of their own. -/
inductive StatusKind where
  | badRequest
  | notFound
  | serviceUnavailable
  | gatewayTimeout
  | unexpected
deriving DecidableEq, Repr

namespace StatusKind

/-- The kind of a status (`TransportError::from_status`). -/
def ofStatus (status : Nat) : StatusKind :=
  if status = 400 then .badRequest
  else if status = 404 then .notFound
  else if status = 503 then .serviceUnavailable
  else if status = 504 then .gatewayTimeout
  else .unexpected

def message : StatusKind → String
  | .badRequest => "bad request"
  | .notFound => "not found"
  | .serviceUnavailable => "service unavailable"
  | .gatewayTimeout => "gateway timeout"
  | .unexpected => "unexpected status"

/-- Whether the node says that it cannot answer for now. -/
def isUnavailable (k : StatusKind) : Bool := k = .serviceUnavailable || k = .gatewayTimeout

end StatusKind

/-- An answer that is an error. -/
structure HttpError where
  status : Nat
  body : String
  /-- What the body says, if it is JSON. -/
  info : Option Json
  url : String

namespace HttpError

def kind (e : HttpError) : StatusKind := StatusKind.ofStatus e.status

def message (e : HttpError) : String :=
  e.kind.message ++ ": " ++ toString e.status ++ " from " ++ e.url ++
    (if e.body = "" then "" else ": " ++ e.body)

end HttpError

/-- Why an attempt on one node failed: the kinds of `TransportError` that `Connection::request` gives. -/
inductive RequestError where
  | connection (url : String) (fault : LinkFault)
  | http (error : HttpError)
  /-- A header that no request can carry; nothing was sent. -/
  | header (name : String)

namespace RequestError

def message : RequestError → String
  | .connection url fault => "connection to " ++ url ++ " failed: " ++ fault.message
  | .http e => e.message
  | .header name => "invalid header '" ++ name ++ "'"

/-- Whether another node should be tried (`RetryPolicy::is_node_failure`): always if no answer came, and if
`retryUnavailable` holds also if the node says that it cannot answer for now. -/
def isNodeFailure (retryUnavailable : Bool) : RequestError → Bool
  | .connection _ _ => true
  | .http e => retryUnavailable && e.kind.isUnavailable
  | .header _ => false

def isConnection : RequestError → Bool
  | .connection _ _ => true
  | _ => false

/-- The answer, if there was one. -/
def answer? : RequestError → Option HttpError
  | .http e => some e
  | _ => none

/-- The address of the request, if the error concerns one. -/
def url? : RequestError → Option String
  | .connection url _ => some url
  | .http e => some e.url
  | .header _ => none

end RequestError

/-- Why a call, or the making of a client, failed. -/
inductive TransportError where
  | request (error : RequestError)
  /-- The time for the call is over; these are the errors of its attempts. -/
  | timeout (errors : List RequestError)
  | node (error : NodeError)
  | noNodes

namespace TransportError

def message : TransportError → String
  | .request e => e.message
  | .timeout errors =>
    "request timed out after " ++ toString errors.length ++ " failed attempt(s)"
  | .node e => e.message
  | .noNodes => "at least one node is required"

def request? : TransportError → Option RequestError
  | .request e => some e
  | _ => none

/-- The answer, if the error is one. -/
def answer? (e : TransportError) : Option HttpError := e.request?.bind RequestError.answer?

def info? (e : TransportError) : Option Json := e.answer?.bind HttpError.info
def status? (e : TransportError) : Option Nat := e.answer?.map HttpError.status
def url? (e : TransportError) : Option String := e.request?.bind RequestError.url?
def isConnection (e : TransportError) : Bool := e.request?.any RequestError.isConnection

def isTimeout : TransportError → Bool
  | .timeout _ => true
  | _ => false

def isNodeFailure (retryUnavailable : Bool) (e : TransportError) : Bool :=
  e.request?.any (RequestError.isNodeFailure retryUnavailable)

end TransportError
end FederatedLedger
