import FederatedLedger.Document
import FederatedLedger.Header
import FederatedLedger.Text.Split
import FederatedLedger.Url.Basic

/-!
# Nodes

A node is named by a host or an address, possibly with headers of its own. `Endpoint.normalize` gives
every name one form, `scheme://host:port/path` without a trailing slash: the scheme is `http` if none is
written, the port is the one that is written, else 9984, or 443 for `https`.
-/

namespace FederatedLedger

/-- Why a text names no node. -/
inductive EndpointError where
  | address (cause : UrlError)
  | scheme (name : String)
deriving DecidableEq, Repr

/-- A text that names no node (`NodeError::InvalidUrl`). -/
structure NodeError where
  input : String
  cause : EndpointError
deriving DecidableEq, Repr

/-- The wording of the cause. -/
def EndpointError.message : EndpointError → String
  | .address cause => cause.message
  | .scheme name => "unsupported scheme '" ++ name ++ "'"

/-- The wording of a node error. -/
def NodeError.message (e : NodeError) : String :=
  "invalid node URL '" ++ e.input ++ "': " ++ e.cause.message

/-- A node as given: its endpoint alone, or with headers of its own. -/
inductive NodeSpec where
  | plain (endpoint : String)
  | detailed (endpoint : String) (headers : Headers)
deriving DecidableEq, Repr

/-- A node that can be used (`NodeDescriptor`). -/
structure Node where
  endpoint : String
  headers : Headers
deriving DecidableEq, Repr

namespace Endpoint

/-- The node that is used if none is named (`DEFAULT_NODE`). -/
def standard : String := "http://localhost:9984"

/-- The port of a node for which none is written (`DEFAULT_PORT`, `DEFAULT_TLS_PORT`). -/
def usualPort : Scheme → Nat
  | .http => 9984
  | .https => 443

/-- What ends the scheme of an address that names an authority. -/
def separator : List Char := [':', '/', '/']

/-- A text with a scheme. -/
def withScheme (cs : List Char) : List Char :=
  if (cutAtFirst? separator cs).isSome then cs else "http://".toList ++ cs

/-- Whether a port, or at least its colon, is written in the authority of an address (`has_explicit_port`): after
the closing bracket of an IPv6 address, and anywhere otherwise. -/
def writesPort (cs : List Char) : Bool :=
  let rest := match cutAtFirst? separator cs with
    | some (_, r) => r
    | none => cs
  let authority := rest.takeWhile fun c => c ≠ '/' && c ≠ '?' && c ≠ '#'
  let host := (afterLast? '@' authority).getD authority
  match host with
  | '[' :: _ => match cutAtFirst? [']'] host with
    | some (_, ':' :: _) => true
    | _ => false
  | _ => host.contains ':'

/-- The port of a node. An address hides a port that its scheme implies, so the text is asked. -/
def portOf (written : List Char) (u : Url) : Nat :=
  match u.port with
  | some p => p
  | none => if writesPort written then u.portOrDefault else usualPort u.scheme

/-- The endpoint for the parts of an address. -/
def ofUrl (port : Nat) (u : Url) : String :=
  u.scheme.text ++ "://" ++ u.host.text ++ ":" ++ toString port ++
    String.ofList (dropTrailing (· == '/') u.pathText.toList)

/-- The one form of the name of a node (`normalize_url`). -/
def normalize (input : String) : Except NodeError String :=
  let written := trimBlanks input.toList
  if written = [] then .ok standard
  else
    let written := withScheme written
    match Url.parse written with
    | .error cause => .error ⟨input, .address cause⟩
    | .ok (.other scheme) => .error ⟨input, .scheme scheme⟩
    | .ok (.web u) => .ok (ofUrl (portOf written u) u)

end Endpoint

namespace NodeSpec

def endpoint : NodeSpec → String
  | .plain e => e
  | .detailed e _ => e

/-- The headers that belong to the node alone. -/
def headers : NodeSpec → Headers
  | .plain _ => []
  | .detailed _ hs => hs

/-- The node that is meant, with headers for all nodes (`normalize_nodes` on one node, `NodeDescriptor::new`); its
own headers win. -/
def node (shared : Headers) (s : NodeSpec) : Except NodeError Node :=
  (Endpoint.normalize s.endpoint).map fun e => ⟨e, Entries.overlay shared s.headers⟩

def toJson : NodeSpec → Json
  | .plain e => .string e
  | .detailed e hs => .object [("endpoint", .string e), ("headers", .ofTexts hs)]

/-- A text, or an object with an endpoint and perhaps headers. Everything in it must have a value. -/
def read? (room : Nat) (d : Document) : Option NodeSpec := do
  guard (d.value? room).isSome
  match d with
  | .string s => return .plain (← s)
  | .object _ =>
    let r ← d.namedRecord? ["endpoint", "headers"] room
    return .detailed (← r.required? "endpoint" Document.string?)
      (← r.defaulted? "headers" [] (Document.texts? (room - 1)))
  | _ => none

end NodeSpec

namespace Node

/-- The nodes that are meant, with headers for all of them (`normalize_nodes`). Without any the standard node is
meant. -/
def ofSpecs (specs : List NodeSpec) (shared : Headers) : Except NodeError (List Node) :=
  match specs with
  | [] => .ok [⟨Endpoint.standard, shared⟩]
  | _ => specs.mapM (NodeSpec.node shared)

def toJson (n : Node) : Json :=
  .object [("endpoint", .string n.endpoint), ("headers", .ofTexts n.headers)]

end Node
end FederatedLedger
