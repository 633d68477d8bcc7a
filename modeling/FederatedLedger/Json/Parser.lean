import FederatedLedger.Document
import FederatedLedger.Json.Literal
import FederatedLedger.Text.Encoding

/-!
# Reading JSON syntax

A recursive descent over the characters of a text. Each function returns what it read and the rest
of the text. The fuel counts values and commas, and every one of them takes a character, so the length
of the text is enough and `Document.parse?` shows none.
-/

namespace FederatedLedger
namespace Document

/-- The characters that may stand between tokens. -/
def isSpace (c : Char) : Bool := c = ' ' || c = '\n' || c = '\t' || c = '\r'

/-- The text after leading space. -/
def skipSpace (cs : List Char) : List Char := cs.dropWhile isSpace

/-- The rest after `word`, if the text starts with it. -/
def literal? : List Char → List Char → Option (List Char)
  | [], cs => some cs
  | _ :: _, [] => none
  | w :: ws, c :: cs => if w = c then literal? ws cs else none

/-- The character that a one-letter escape stands for. -/
def escape? : Char → Option Char
  | '"' => some '"'
  | '\\' => some '\\'
  | '/' => some '/'
  | 'b' => some '\x08'
  | 'f' => some '\x0c'
  | 'n' => some '\n'
  | 'r' => some '\r'
  | 't' => some '\t'
  | _ => none

/-- The value of four hexadecimal digits. -/
def fourDigits? (a b c d : Char) : Option Nat := do
  let a ← Hex.digitValue? a
  let b ← Hex.digitValue? b
  let c ← Hex.digitValue? c
  let d ← Hex.digitValue? d
  return ((a * 16 + b) * 16 + c) * 16 + d

/-- Reads a text up to its closing quote. The units are code points, or surrogates from escapes. -/
def units? : List Char → Option (List Nat × List Char)
  | [] => none
  | '"' :: r => some ([], r)
  | '\\' :: 'u' :: a :: b :: c :: d :: r => do
    let u ← fourDigits? a b c d
    let (us, rest) ← units? r
    return (u :: us, rest)
  | '\\' :: e :: r => do
    let c ← escape? e
    let (us, rest) ← units? r
    return (c.toNat :: us, rest)
  | c :: r => do
    guard (0x20 ≤ c.toNat)
    let (us, rest) ← units? r
    return (c.toNat :: us, rest)

def isHighSurrogate (u : Nat) : Bool := 0xD800 ≤ u && u < 0xDC00
def isLowSurrogate (u : Nat) : Bool := 0xDC00 ≤ u && u < 0xE000

/-- Joins surrogates in pairs; `none` if one is left alone. -/
def joinUnits? : List Nat → Option (List Char)
  | [] => some []
  | u :: r =>
    if isHighSurrogate u then
      match r with
      | v :: r' =>
        if isLowSurrogate v then
          (joinUnits? r').map (Char.ofNat (0x10000 + (u - 0xD800) * 0x400 + (v - 0xDC00)) :: ·)
        else none
      | [] => none
    else if isLowSurrogate u then none
    else (joinUnits? r).map (Char.ofNat u :: ·)

/-- Reads a text after its opening quote. -/
def text? (cs : List Char) : Option (Option String × List Char) :=
  (units? cs).map fun (us, rest) => ((joinUnits? us).map String.ofList, rest)

/-- The digits at the front of a text, and the rest. -/
def digits (cs : List Char) : List Char × List Char :=
  (cs.takeWhile Char.isDigit, cs.dropWhile Char.isDigit)

/-- The whole part of a number: a zero alone, or digits that start with another. -/
def whole? (cs : List Char) : Option (List Char × List Char) :=
  match cs with
  | '0' :: r => if (r.head?.any Char.isDigit) then none else some (['0'], r)
  | _ => match digits cs with
    | ([], _) => none
    | part => some part

/-- The part after a point, if there is one. -/
def fraction? : List Char → Option (List Char × List Char)
  | '.' :: r => match digits r with
    | ([], _) => none
    | part => some part
  | cs => some ([], cs)

/-- The natural number that decimal digits spell. -/
def decimalValue (ds : List Char) : Nat :=
  ds.foldl (fun n c => 10 * n + Literal.digitValue c) 0

/-- The exponent, if there is one. -/
def exponent? : List Char → Option (Option Int × List Char)
  | e :: r =>
    if e = 'e' ∨ e = 'E' then
      let (negative, r) := match r with
        | '-' :: r => (true, r)
        | '+' :: r => (false, r)
        | r => (false, r)
      match digits r with
      | ([], _) => none
      | (ds, rest) =>
        let n : Int := decimalValue ds
        some (some (if negative then -n else n), rest)
    else some (none, e :: r)
  | [] => some (none, [])

/-- Reads a number. -/
def number? (cs : List Char) : Option (Literal × List Char) := do
  let (negative, cs) := match cs with
    | '-' :: r => (true, r)
    | r => (false, r)
  let (whole, cs) ← whole? cs
  let (fraction, cs) ← fraction? cs
  let (exponent, cs) ← exponent? cs
  return (⟨negative, whole, fraction, exponent⟩, cs)

mutual

/-- Reads a value. -/
def parseValue : Nat → List Char → Option (Document × List Char)
  | 0, _ => none
  | fuel + 1, cs =>
    match skipSpace cs with
    | '"' :: r => (text? r).map fun (s, rest) => (.string s, rest)
    | '[' :: r =>
      match skipSpace r with
      | ']' :: rest => some (.array [], rest)
      | r => (parseItems fuel r).map fun (items, rest) => (.array items, rest)
    | '\x7b' :: r =>
      match skipSpace r with
      | '\x7d' :: rest => some (.object [], rest)
      | r => (parseMembers fuel r).map fun (members, rest) => (.object members, rest)
    | 'n' :: r => (literal? ['u', 'l', 'l'] r).map fun rest => (.null, rest)
    | 't' :: r => (literal? ['r', 'u', 'e'] r).map fun rest => (.bool true, rest)
    | 'f' :: r => (literal? ['a', 'l', 's', 'e'] r).map fun rest => (.bool false, rest)
    | r => (number? r).map fun (l, rest) => (.number l.value?, rest)

/-- Reads the items of an array, at least one, and its closing bracket. -/
def parseItems : Nat → List Char → Option (List Document × List Char)
  | 0, _ => none
  | fuel + 1, cs => do
    let (item, r) ← parseValue fuel cs
    match skipSpace r with
    | ']' :: rest => return ([item], rest)
    | ',' :: r => do
      let (items, rest) ← parseItems fuel r
      return (item :: items, rest)
    | _ => none

/-- Reads the members of an object, at least one, and its closing brace. -/
def parseMembers : Nat → List Char → Option (List (Option String × Document) × List Char)
  | 0, _ => none
  | fuel + 1, cs =>
    match skipSpace cs with
    | '"' :: r => do
      let (key, r) ← text? r
      match skipSpace r with
      | ':' :: r => do
        let (value, r) ← parseValue fuel r
        match skipSpace r with
        | '\x7d' :: rest => return ([(key, value)], rest)
        | ',' :: r => do
          let (members, rest) ← parseMembers fuel r
          return ((key, value) :: members, rest)
        | _ => none
      | _ => none
    | _ => none

end

/-- The syntax tree of a JSON text, with nothing but space around it. -/
def parse? (text : String) : Option Document := do
  let cs := text.toList
  let (d, rest) ← parseValue (2 * cs.length + 2) cs
  guard (skipSpace rest).isEmpty
  return d

end Document

/-- The value of a JSON text (`serde_json::from_str`). -/
def Json.parse? (text : String) : Option Json := do
  (← Document.parse? text).value? Document.depthLimit

end FederatedLedger
