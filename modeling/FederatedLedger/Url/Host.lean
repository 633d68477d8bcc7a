import FederatedLedger.Url.Idna
import FederatedLedger.Url.Ip
import FederatedLedger.Url.Percent

/-!
# Hosts

The host of an address is a name, an IPv4 address or an IPv6 address in brackets. A name whose last part is
a number is an IPv4 address and nothing else.
-/

namespace FederatedLedger

/-- Why a text is no address. -/
inductive UrlError where
  | emptyHost
  | hostName
  | hostCharacter
  | port
  | ipv4
  | ipv6
  /-- There is no scheme. -/
  | noScheme
deriving DecidableEq, Repr

/-- The wording of an address error. -/
def UrlError.message : UrlError → String
  | .emptyHost => "empty host"
  | .hostName => "invalid international domain name"
  | .hostCharacter => "invalid domain character"
  | .port => "invalid port number"
  | .ipv4 => "invalid IPv4 address"
  | .ipv6 => "invalid IPv6 address"
  | .noScheme => "relative URL without a base"

/-- The host of a web address. -/
inductive Host where
  | name (name : String)
  | ipv4 (address : Nat)
  | ipv6 (pieces : List Nat)
deriving DecidableEq, Repr

namespace Host

/-- How the host is written. -/
def text : Host → String
  | .name n => n
  | .ipv4 a => String.ofList (Ipv4.chars a)
  | .ipv6 ps => String.ofList (Ipv6.chars ps)

/-- The text that bytes spell in UTF-8, if they spell one. -/
def spelled? (bs : Bytes) : Option (List Char) :=
  (String.fromUTF8? ⟨bs.toArray⟩).map String.toList

/-- What stands between brackets, if a text starts with one. -/
def bracketed? : List Char → Option (Except UrlError (List Nat))
  | '[' :: r =>
    some <|
      if r.getLast? = some ']' then
        match Ipv6.parse? r.dropLast with
        | some ps => .ok ps
        | none => .error .ipv6
      else .error .ipv6
  | _ => none

/-- Reads the host of a web address. -/
def parse (cs : List Char) : Except UrlError Host :=
  match bracketed? cs with
  | some r => r.map .ipv6
  | none =>
    match (spelled? (Percent.decode cs)).bind Idna.toAscii? with
    | none => .error .hostName
    | some [] => .error .emptyHost
    | some ascii =>
      if Ipv4.isMeant ascii then
        match Ipv4.parse? ascii with
        | some a => .ok (.ipv4 a)
        | none => .error .ipv4
      else .ok (.name (String.ofList ascii))

/-- Checks the host of an address of a scheme that gives hosts no meaning. -/
def checkOther (cs : List Char) : Except UrlError Unit :=
  match bracketed? cs with
  | some r => r.map fun _ => ()
  | none =>
    if cs.any fun c => c = '\x00' || ['\t', '\n', '\r', ' ', '#', '/', ':', '<', '>', '?', '@', '[', '\\', ']',
        '^', '|'].contains c
    then .error .hostCharacter
    else .ok ()

end Host
end FederatedLedger
