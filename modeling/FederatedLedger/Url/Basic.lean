import FederatedLedger.Text.Blank
import FederatedLedger.Text.Utf8
import FederatedLedger.Url.Percent
import FederatedLedger.Url.Host

/-!
# Web addresses

The parts of an `http` or `https` address and their reading from text. Reading drops tabs and line
breaks, takes any number of slashes and backslashes after the scheme, leaves out fragments, and resolves
dot segments. The text of an address does not show its user name and password. Addresses of other schemes
are checked but have no parts here.
-/

namespace FederatedLedger

/-- The schemes by which nodes are reached. -/
inductive Scheme where
  | http
  | https
deriving DecidableEq, Repr

namespace Scheme

def text : Scheme → String
  | .http => "http"
  | .https => "https"

/-- The port of an address that names none. -/
def defaultPort : Scheme → Nat
  | .http => 80
  | .https => 443

end Scheme

/-- A user name and perhaps a password. -/
structure Credentials where
  user : String
  password : Option String
deriving DecidableEq, Repr

/-- The parts of a web address. -/
structure Url where
  scheme : Scheme
  /-- What stands before an `@` in front of the host. -/
  credentials : Option Credentials
  host : Host
  /-- The port, if it is not the default port of the scheme. -/
  port : Option Nat
  /-- The path between its slashes; there is always a segment. -/
  path : List String
  query : Option String
deriving DecidableEq, Repr

/-- What a text is as an address. -/
inductive Address where
  | web (url : Url)
  | other (scheme : String)
deriving DecidableEq, Repr

namespace Url

def isTabOrBreak (c : Char) : Bool := c = '\t' || c = '\n' || c = '\r'

/-- The text that is read: without controls and spaces at its ends, and without tabs and line breaks. -/
def clean (cs : List Char) : List Char :=
  let isEnd (c : Char) : Bool := c.toNat ≤ 0x20
  (dropTrailing isEnd (cs.dropWhile isEnd)).filter fun c => !isTabOrBreak c

/-- The scheme in lower case, and the text after its colon. -/
def scheme? (cs : List Char) : Option (List Char × List Char) :=
  let isPart (c : Char) : Bool := c.isAlphanum || c = '+' || c = '-' || c = '.'
  match cs.takeWhile isPart, cs.dropWhile isPart with
  | c :: name, ':' :: r => if c.isAlpha then some ((c :: name).map Char.toLower, r) else none
  | _, _ => none

/-- The characters that end an authority; in the schemes of the web a backslash is a slash. -/
def endsAuthority (special : Bool) (c : Char) : Bool :=
  c = '/' || c = '?' || c = '#' || (special && c = '\\')

/-- What a text says between the slashes and the path, as text: user information, if there is an `@`, and the
rest. -/
def cutUser (special : Bool) (cs : List Char) : Option (List Char) × List Char :=
  let authority := cs.takeWhile fun c => !endsAuthority special c
  match afterLast? '@' authority with
  | none => (none, cs)
  | some r =>
    let user := authority.take (authority.length - r.length - 1)
    (some user, cs.drop (user.length + 1))

/-- The text up to the end of the host. Colons inside brackets belong to it. -/
def hostPart (special : Bool) : Bool → List Char → List Char
  | _, [] => []
  | inside, c :: r =>
    if (c = ':' && !inside) || endsAuthority special c then []
    else c :: hostPart special (if c = '[' then true else if c = ']' then false else inside) r

/-- Reads a port after its colon: the number, if there are digits, and the rest. -/
def readPort (cs : List Char) : Except UrlError (Option Nat × List Char) :=
  let digits := cs.takeWhile Char.isDigit
  let rest := cs.dropWhile Char.isDigit
  let value := digits.foldl (fun n c => 10 * n + (c.toNat - 48)) 0
  if 65535 < value then .error .port
  else match rest with
    | [] => .ok (if digits = [] then none else some value, [])
    | c :: _ =>
      if endsAuthority true c then .ok (if digits = [] then none else some value, rest)
      else .error .port

/-- Reads a port if a colon is there. -/
def readOptionalPort : List Char → Except UrlError (Option Nat × List Char)
  | ':' :: r => readPort r
  | cs => .ok (none, cs)

/-- The user information has to be followed by a host. -/
def checkUser (special : Bool) (user : Option (List Char)) (rest : List Char) : Except UrlError Unit :=
  match user, rest with
  | some [], c :: _ => if endsAuthority special c then .error .emptyHost else .ok ()
  | _, _ => .ok ()

/-- What user information says: the name up to the first colon and the password after it. A password that is
empty or no text is none. -/
def readCredentials (user : List Char) : Option Credentials :=
  let name := user.takeWhile (· ≠ ':')
  let rest := user.drop (name.length + 1)
  let password := if rest = [] then none else Utf8.decode? (Percent.decode rest)
  match Utf8.decode? (Percent.decode name) with
  | none => none
  | some name => if name = "" ∧ password = none then none else some ⟨name, password⟩

/-- Reads the user information, host and port of a web address, and gives the text after them. -/
def authority (cs : List Char) :
    Except UrlError (Option Credentials × Host × Option Nat × List Char) := do
  let (user, cs) := cutUser true cs
  checkUser true user cs
  let part := hostPart true false cs
  if part = [] then throw .emptyHost
  let host ← Host.parse part
  let (port, rest) ← readOptionalPort (cs.drop part.length)
  return (user.bind readCredentials, host, port, rest)

/-- The segments that mean "here" and "up", their dots possibly as percent triples. -/
def isHere (s : List Char) : Bool :=
  let s := s.map Char.toLower
  s = ['.'] || s = ['%', '2', 'e']

def isUp (s : List Char) : Bool :=
  let s := s.map Char.toLower
  s = ['.', '.'] || s = ['.', '%', '2', 'e'] || s = ['%', '2', 'e', '.'] ||
  s = ['%', '2', 'e', '%', '2', 'e']

/-- A drive letter, which no dot segment removes. -/
def isDrive : List Char → Bool
  | [c, d] => c.isAlpha && (d = ':' || d = '|')
  | _ => false

/-- Leaves out the last segment, the first of the list. -/
def up : List (List Char) → List (List Char)
  | [] => []
  | s :: r => if isDrive s then s :: r else r

/-- The segments of a path without dot segments; `done` holds what stands before, last first. -/
def resolve : List (List Char) → List (List Char) → List (List Char)
  | done, [] => done.reverse
  | done, [s] =>
    if isUp s then (([] : List Char) :: up done).reverse
    else if isHere s then ([] :: done).reverse
    else (s :: done).reverse
  | done, s :: t :: r =>
    if isUp s then resolve (up done) (t :: r)
    else if isHere s then resolve done (t :: r)
    else resolve (s :: done) (t :: r)

/-- The segments of the text of a path. One slash or backslash in front belongs to the first segment. -/
def segments (cs : List Char) : List (List Char) :=
  let isSlash (c : Char) : Bool := c = '/' || c = '\\'
  let body := match cs with
    | c :: r => if isSlash c then r else c :: r
    | [] => []
  resolve [] ((splitAtEach isSlash body).map (Percent.encode Percent.pathSet))

/-- Reads an address after its scheme and the slashes. -/
def ofParts (scheme : Scheme) (cs : List Char) : Except UrlError Url := do
  let (credentials, host, port, rest) ← authority cs
  let path := rest.takeWhile fun c => c ≠ '?' && c ≠ '#'
  let query := match rest.drop path.length with
    | '?' :: r =>
      some (String.ofList (Percent.encode Percent.querySet (r.takeWhile (· ≠ '#'))))
    | _ => none
  return {
    scheme, credentials, host, query
    port := if port = some scheme.defaultPort then none else port
    path := (segments path).map String.ofList }

/-- Checks the host and port of an address of another scheme, after its two slashes. -/
def checkOther (cs : List Char) : Except UrlError Unit := do
  let (user, cs) := cutUser false cs
  checkUser false user cs
  let part := hostPart false false cs
  Host.checkOther part
  let rest := cs.drop part.length
  let named := match user with
    | none | some [] | some [':'] => false
    | some _ => true
  if part = [] && (named || rest.head? = some ':') then throw .emptyHost
  let _ ← readOptionalPort rest

/-- Checks the host of a file address: it may be empty or a drive letter. -/
def checkFile : List Char → Except UrlError Unit
  | a :: b :: r =>
    let isSlash (c : Char) : Bool := c = '/' || c = '\\'
    if isSlash a && isSlash b then
      let part := r.takeWhile fun c => !endsAuthority true c
      if part = [] || isDrive part then .ok () else (Host.parse part).map fun _ => ()
    else .ok ()
  | _ => .ok ()

/-- Reads an address (`Url::parse`). -/
def parse (text : List Char) : Except UrlError Address :=
  match scheme? (clean text) with
  | none => .error .noScheme
  | some (name, r) =>
    let scheme := String.ofList name
    let afterSlashes := r.dropWhile fun c => c = '/' || c = '\\'
    if scheme = "http" then (ofParts .http afterSlashes).map .web
    else if scheme = "https" then (ofParts .https afterSlashes).map .web
    else if scheme = "ftp" ∨ scheme = "ws" ∨ scheme = "wss" then
      (authority afterSlashes).map fun _ => .other scheme
    else if scheme = "file" then (checkFile r).map fun _ => .other scheme
    else match r with
      | '/' :: '/' :: r => (checkOther r).map fun _ => .other scheme
      | _ => .ok (.other scheme)

/-- The port by which the host is reached (`Url::port_or_known_default`). -/
def portOrDefault (u : Url) : Nat := u.port.getD u.scheme.defaultPort

/-- The path as text (`Url::path`). -/
def pathText (u : Url) : String :=
  String.ofList (u.path.flatMap fun s => '/' :: s.toList)

/-- The address with pairs of names and values added to its query (`RequestBuilder::query`). -/
def withPairs (u : Url) (pairs : List (String × String)) : Url :=
  if pairs = [] then u
  else
    let added := String.ofList (Form.ofPairs pairs)
    match u.query with
    | none => { u with query := some added }
    | some "" => { u with query := some added }
    | some q => { u with query := some (q ++ "&" ++ added) }

/-- The host and the port, if one is written. -/
def hostAndPort (u : Url) : String :=
  match u.port with
  | none => u.host.text
  | some p => u.host.text ++ ":" ++ toString p

/-- The address as text. -/
def text (u : Url) : String :=
  u.scheme.text ++ "://" ++ u.hostAndPort ++ u.pathText ++
    (match u.query with
      | none => ""
      | some q => "?" ++ q)

end Url
end FederatedLedger
