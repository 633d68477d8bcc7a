import FederatedLedger.Json.Parser
import FederatedLedger.Request
import FederatedLedger.Text.Encoding
import FederatedLedger.Transport.Error

/-!
# Connections

A connection knows one node. `Connection.compose` makes of a request what the node gets, and
`Connection.interpret` makes of the node's reply the result of the attempt: the data of an answer with a
status from 200 to 299, and an error otherwise.
-/

namespace FederatedLedger

/-- A request as a node gets it. -/
structure Outgoing where
  method : String
  url : Url
  headers : Headers
  body : Option String
deriving DecidableEq, Repr

/-- What a node answers. -/
structure Reply where
  status : Nat
  contentType : Option String
  body : Bytes
deriving DecidableEq, Repr

namespace Reply

/-- Whether the reply calls itself JSON. -/
def isJson (r : Reply) : Bool :=
  r.contentType.any fun t =>
    let cs := t.toList
    cs.all (fun c => c = '\t' || (0x20 ≤ c.toNat && c.toNat < 0x7F)) &&
      (cutAtFirst? ['j', 's', 'o', 'n'] (asciiLower t).toList).isSome

def text (r : Reply) : String := Utf8.decode r.body

def isSuccess (r : Reply) : Bool := 200 ≤ r.status && r.status < 300

/-- The data of a reply (`HttpResponse::data`): what the body says if it is JSON, else the body itself. -/
def data (r : Reply) : Json :=
  (if r.isJson then Json.parse? r.text else none).getD (.string r.text)

end Reply

/-- A node that requests can be sent to. -/
structure Connection where
  endpoint : String
  /-- The headers of the node, in the form in which they are sent. -/
  headers : Headers
deriving DecidableEq, Repr

namespace Connection

/-- A connection to a node (`Connection::new`). -/
def toNode (n : Node) : Except RequestError Connection :=
  match n.headers.sent with
  | .ok headers => .ok ⟨n.endpoint, headers⟩
  | .error name => .error (.header name)

/-- The address of a path on the node, as text (`Connection::url_for`). -/
def urlFor (c : Connection) (path : Option String) : String := c.endpoint ++ path.getD ""

/-- The header for the user name and password of an address. -/
def authorization (u : Url) : Headers :=
  match u.credentials with
  | none => []
  | some ⟨user, password⟩ =>
    let pair := user ++ ":" ++ password.getD ""
    [("authorization", "Basic " ++ String.ofList (Base64.encode (utf8 pair)))]

/-- The headers that a request has by itself, without those that it names. The `accept: */*` that the HTTP library
adds where no map holds an `accept` is left out. -/
def implied (u : Url) (r : Request) : Headers :=
  match r.body with
  | none => authorization u
  | some _ => (authorization u).insert "content-type" "application/json"

/-- What the node gets: the first half of `Connection::request`. Headers that the request names win over implied
ones, and those over headers of the node. -/
def compose (c : Connection) (r : Request) : Except RequestError Outgoing :=
  match r.headers.sent with
  | .error name => .error (.header name)
  | .ok named =>
    let address := c.urlFor r.path
    match Url.parse address.toList with
    | .error cause => .error (.connection address (.address cause))
    | .ok (.other _) => .error (.connection address (.address .noScheme))
    | .ok (.web u) => .ok {
        method := r.method
        url := u.withPairs r.params
        headers := Headers.withDefaults (Entries.overlay (implied u r) named) c.headers
        body := r.body.map Json.text }

/-- The result of an attempt that was answered: the second half of `Connection::request`. -/
def interpret (address : String) (r : Reply) : Except RequestError Json :=
  if r.isSuccess then .ok r.data
  else .error (.http ⟨r.status, r.text, Json.parse? r.text, address⟩)

end Connection
end FederatedLedger
