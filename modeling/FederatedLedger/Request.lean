import FederatedLedger.Header
import FederatedLedger.Json.Printer
import FederatedLedger.Time

/-!
# Requests

A request is built step by step, and is relative to whatever node it will be sent to. The builders are

| definition | function |
| --- | --- |
| `get`, `post` | `Request::get`, `Request::post` |
| `withPath` | `Request::path` |
| `withParam`, `withParam?` | `Request::param`, `Request::param_opt` |
| `withBody` | `Request::json` |
| `withHeader`, `withHeaders` | `Request::header`, `Request::headers` |
| `withTimeout` | `Request::timeout` |
-/

namespace FederatedLedger

/-- A request. -/
structure Request where
  method : String
  /-- What is appended to the endpoint of the node. -/
  path : Option String
  /-- The pairs of the query, in order. -/
  params : List (String × String)
  body : Option Json
  headers : Headers
  /-- The time budget over all attempts, in place of the usual one. -/
  timeout : Option Duration

namespace Request

/-- A request with nothing but a method (`Request::new`). -/
def ofMethod (method : String) : Request := ⟨method, none, [], none, [], none⟩

def get : Request := ofMethod "GET"
def post : Request := ofMethod "POST"

def withPath (r : Request) (path : String) : Request := { r with path := some path }

def withParam (r : Request) (name value : String) : Request :=
  { r with params := r.params ++ [(name, value)] }

/-- Adds a pair if there is a value (`Request::param_opt`). -/
def withParam? (r : Request) (name : String) : Option String → Request
  | none => r
  | some value => r.withParam name value

/-- A request with this body (`Request::json`). -/
def withBody (r : Request) (body : Json) : Request := { r with body := some body }

def withHeader (r : Request) (name value : String) : Request :=
  { r with headers := r.headers.insert name value }

/-- A header that is there already takes the new value (`Request::headers`). -/
def withHeaders (r : Request) (hs : Headers) : Request :=
  { r with headers := Entries.overlay r.headers hs }

def withTimeout (r : Request) (timeout : Duration) : Request := { r with timeout := some timeout }

end Request
end FederatedLedger
