import FederatedLedger.Toml.Moment
import FederatedLedger.Toml.Number
import FederatedLedger.Toml.Table
import FederatedLedger.Toml.Text

/-!
# Reading TOML

Values, keys and lines of a TOML document, and the document that they build. Each function returns what it
read and the rest of the text. As in `Document.parse?` the fuel is the length of the text. Arrays and inline
tables may be 79 deep, and so may dotted keys.
-/

namespace FederatedLedger
namespace Toml

/-- How deep arrays and inline tables may nest, and how many parts a dotted key may have. -/
def depthLimit : Nat := 79

/-- A date or time as a document: an object with one member, which holds its spelling. -/
def ofMoment (spelling : List Char) : Document :=
  .object [(some "$__toml_private_datetime", .string (some (String.ofList spelling)))]

def isKeyChar (c : Char) : Bool := c.isAlphanum || c = '-' || c = '_'

/-- Reads one part of a key. -/
def keyPart? : List Char → Option (String × List Char)
  | '"' :: r => (quoted? r).map fun (s, r) => (String.ofList s, r)
  | '\'' :: r => (literal? r).map fun (s, r) => (String.ofList s, r)
  | cs =>
    let name := cs.takeWhile isKeyChar
    if name = [] then none else some (String.ofList name, cs.drop name.length)

/-- Reads the parts of a dotted key. -/
def keyParts? : Nat → List Char → Option (List String × List Char)
  | 0, _ => none
  | fuel + 1, cs => do
    let (part, r) ← keyPart? (skipBlanks cs)
    match skipBlanks r with
    | '.' :: r => do
      let (parts, r) ← keyParts? fuel r
      return (part :: parts, r)
    | r => return ([part], r)

/-- Reads a key, plain or dotted. -/
def key? (cs : List Char) : Option (List String × List Char) := do
  let (parts, r) ← keyParts? (cs.length + 1) cs
  if parts.length ≤ depthLimit then return (parts, r) else none

/-- Reads a value that is no array and no table. -/
def scalar? (cs : List Char) : Option (Document × List Char) :=
  match cs with
  | '"' :: _ | '\'' :: _ => (text? cs).map fun (s, r) => (.string (some s), r)
  | 't' :: 'r' :: 'u' :: 'e' :: r => some (.bool true, r)
  | 'f' :: 'a' :: 'l' :: 's' :: 'e' :: r => some (.bool false, r)
  | _ =>
    match moment? cs with
    | some (m, r) => some (ofMoment m, r)
    | none => (number? cs).map fun (n, r) => (.number (some n), r)

mutual

/-- Reads a value with at most `room` arrays and inline tables in each other. -/
def value? : Nat → Nat → List Char → Option (Document × List Char)
  | 0, _, _ => none
  | fuel + 1, room, cs =>
    match cs with
    | '[' :: r =>
      if room = 0 then none
      else (elements? fuel (room - 1) r).map fun (items, r) => (.array items, r)
    | '\x7b' :: r =>
      if room = 0 then none
      else match skipBlanks r with
        | '\x7d' :: r => some (.object [], r)
        | r => do
          let (pairs, r) ← pairs? fuel (room - 1) r
          let items ← Items.putPairs [] pairs
          return (.object (membersOf items), r)
    | r => scalar? r

/-- Reads the rest of an array; a comma may follow the last element. -/
def elements? : Nat → Nat → List Char → Option (List Document × List Char)
  | 0, _, _ => none
  | fuel + 1, room, cs =>
    match skipLines false cs with
    | ']' :: r => some ([], r)
    | r => do
      let (item, r) ← value? fuel room r
      match skipLines false r with
      | ',' :: r => do
        let (items, r) ← elements? fuel room r
        return (item :: items, r)
      | ']' :: r => return ([item], r)
      | _ => none

/-- Reads the pairs of an inline table, at least one, and its closing brace. -/
def pairs? : Nat → Nat → List Char → Option (List (List String × Document) × List Char)
  | 0, _, _ => none
  | fuel + 1, room, cs => do
    let (path, r) ← key? cs
    let (value, r) ← value? fuel room (skipBlanks (← mark? '=' r))
    match skipBlanks r with
    | ',' :: r => do
      let (pairs, r) ← pairs? fuel room r
      return ((path, value) :: pairs, r)
    | '\x7d' :: r => return ([(path, value)], r)
    | _ => none

end

/-- A line of a document that is not empty. -/
inductive Line where
  | pair (path : List String) (value : Document)
  | header (path : List String)
  | elementHeader (path : List String)

/-- Reads a line that starts with something other than a blank, a comment or a line break. -/
def line? (cs : List Char) : Option (Line × List Char) :=
  match cs with
  | '[' :: '[' :: r => do
    let (path, r) ← key? r
    return (.elementHeader path, ← lineEnd? (← mark? ']' (← mark? ']' r)))
  | '[' :: r => do
    let (path, r) ← key? r
    return (.header path, ← lineEnd? (← mark? ']' r))
  | cs => do
    let (path, r) ← key? cs
    let (value, r) ← value? (2 * r.length + 2) depthLimit (skipBlanks (← mark? '=' r))
    return (.pair path value, ← lineEnd? r)

/-- Reads all lines. -/
def lines? : Nat → List Char → Option (List Line)
  | 0, _ => none
  | fuel + 1, cs =>
    match skipBlanks cs with
    | [] => some []
    | r =>
      if r.head? = some '#' ∨ (lineBreak? r).isSome then (lineEnd? r).bind (lines? fuel)
      else do
        let (line, r) ← line? r
        return line :: (← lines? fuel r)

/-- The pairs up to the next header, and the lines from there on. -/
def leadingPairs : List Line → List (List String × Document) × List Line
  | .pair path value :: rest =>
    let (pairs, rest) := leadingPairs rest
    ((path, value) :: pairs, rest)
  | lines => ([], lines)

/-- Adds what the lines say, section by section; pairs in front belong to the table itself. -/
def build : Nat → Items → List Line → Option Items
  | 0, _, _ => none
  | fuel + 1, items, lines =>
    match lines with
    | [] => some items
    | .header path :: rest =>
      let (pairs, rest) := leadingPairs rest
      (items.putSection path false pairs).bind fun items => build fuel items rest
    | .elementHeader path :: rest =>
      let (pairs, rest) := leadingPairs rest
      (items.putSection path true pairs).bind fun items => build fuel items rest
    | .pair path value :: rest => (items.putPair path value).bind fun items => build fuel items rest

/-- The document that a TOML text spells. A byte order mark in front is left out. -/
def parse? (text : String) : Option Document := do
  let cs := match text.toList with
    | c :: r => if c = '\ufeff' then r else c :: r
    | [] => []
  let lines ← lines? (cs.length + 1) cs
  let items ← build (lines.length + 1) [] lines
  return .object (membersOf items)

end Toml
end FederatedLedger
