import FederatedLedger.Entries
import FederatedLedger.Text.Encoding
import FederatedLedger.Text.Blank

/-!
# Headers

Names and values that go with a request. On the way to a node names lose their case, so of two names that
differ only in case the later one counts. `Headers.sent` is the form in which headers are sent, or the
first header that no request can carry.
-/

namespace FederatedLedger

/-- Headers by name. -/
abbrev Headers := Entries String

namespace Headers

/-- The characters of a header name. -/
def isNameChar (c : Char) : Bool :=
  c.isAlphanum ||
  ['!', '#', '$', '%', '&', '\'', '*', '+', '-', '.', '^', '_', Char.ofNat 0x60, '|', '~'].contains c

/-- Whether a text is a header name (`HeaderName::from_bytes`). -/
def isName (s : String) : Bool :=
  s ≠ "" && s.toList.all isNameChar && s.utf8ByteSize < 65536

/-- Whether a text can be the value of a header (`HeaderValue::from_str`): it holds no control character but the
tab. -/
def isValue (s : String) : Bool :=
  s.toList.all fun c => c = '\t' || (0x20 ≤ c.toNat && c.toNat ≠ 0x7F)

/-- A header that no request can carry: the name as given if the name is at fault, and in lower case if
the value is. -/
def faulty? (name value : String) : Option String :=
  if !isName name then some name
  else if !isValue value then some (asciiLower name)
  else none

/-- Puts headers into those to be sent, in their order; stops at the first faulty one. -/
def sendAll : Headers → Headers → Except String Headers
  | done, [] => .ok done
  | done, (name, value) :: rest =>
    match faulty? name value with
    | some header => .error header
    | none => sendAll (Entries.insert (asciiLower name) value done) rest

/-- The headers as they are sent (`to_header_map`). -/
def sent (hs : Headers) : Except String Headers := sendAll [] hs

/-- Headers with those filled in that they lack. -/
def withDefaults (hs defaults : Headers) : Headers := Entries.overlay defaults hs

end Headers
end FederatedLedger
