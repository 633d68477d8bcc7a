import FederatedLedger.Text.Encoding
import FederatedLedger.Text.Split

/-!
# Percent and form encoding

In a path or query a byte can be written as a percent sign and two upper-case hexadecimal digits. `Percent.encode`
writes so the bytes of the characters in a given set, `Percent.decode` reads every such triple and keeps what is none.
A form does the same with its names and values, but that a space is a plus sign.
-/

namespace FederatedLedger
namespace Percent

/-- A byte as a percent triple. -/
def ofByte (b : UInt8) : List Char :=
  ['%', Hex.upperDigit (b.toNat / 16), Hex.upperDigit (b.toNat % 16)]

/-- The bytes of a character. -/
def charBytes (c : Char) : Bytes := utf8 (String.singleton c)

/-- Control characters and all characters beyond ASCII, which every encoding here covers. -/
def isUnwritten (c : Char) : Bool := c.toNat < 0x20 || 0x7E < c.toNat

/-- A text with the characters of a set, and the unwritten ones, as percent triples. -/
def encode (set : List Char) (cs : List Char) : List Char :=
  cs.flatMap fun c =>
    if isUnwritten c || set.contains c then (charBytes c).flatMap ofByte else [c]

/-- The bytes of a text, each percent triple as the byte that it stands for. -/
def decode : List Char → Bytes
  | [] => []
  | '%' :: a :: b :: r =>
    match Hex.digitValue? a, Hex.digitValue? b with
    | some x, some y => UInt8.ofNat (16 * x + y) :: decode r
    | _, _ => charBytes '%' ++ decode (a :: b :: r)
  | c :: r => charBytes c ++ decode r

/-- What is encoded in a path. -/
def pathSet : List Char := [' ', '"', '<', '>', '\x60', '#', '?', '\x7b', '\x7d', '^']

/-- What is encoded in a query of a web address. -/
def querySet : List Char := [' ', '"', '#', '<', '>', '\'']

end Percent

/-! ## Forms -/

namespace Form

/-- Whether a byte stands for itself. -/
def isPlain (b : UInt8) : Bool :=
  let c := Char.ofNat b.toNat
  b.toNat < 0x80 && (c.isAlphanum || c == '*' || c == '-' || c == '.' || c == '_')

/-- A byte in a form. -/
def ofByte (b : UInt8) : List Char :=
  if b = 0x20 then ['+'] else if isPlain b then [Char.ofNat b.toNat] else Percent.ofByte b

/-- A text in a form. -/
def encode (s : String) : List Char := (utf8 s).flatMap ofByte

/-- Pairs of names and values, as a query. -/
def ofPairs (ps : List (String × String)) : List Char :=
  joinWith ['&'] (ps.map fun (k, v) => encode k ++ '=' :: encode v)

end Form

end FederatedLedger
