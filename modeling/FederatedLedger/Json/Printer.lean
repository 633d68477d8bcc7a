import FederatedLedger.Json.Basic
import FederatedLedger.Decimal.Shortest
import FederatedLedger.Text.Encoding

/-!
# Writing JSON

`Json.text` writes a value without any space. `Json.canonicalText` first orders the members of every
object by key: it is one text for all spellings of a value, and what ledger ids and signatures are
computed over. `Json.pretty` is for people and puts every item on a line of its own.
-/

namespace FederatedLedger

/-- How doubles are written in JSON: positionally for decimal exponents from -5 to 15, a whole
number with `.0`. -/
def Json.floatLayout : Layout := ⟨fun e => -5 ≤ e && e ≤ 15, true⟩

/-- An integer in decimal, with a minus sign if it is negative. -/
def intChars (n : Int) : List Char :=
  if n < 0 then '-' :: Nat.toDigits 10 n.natAbs else Nat.toDigits 10 n.natAbs

/-- A number; infinities and NaN have no JSON form and are written `null`. -/
def Number.chars : Number → List Char
  | .int n => intChars n
  | .float x => if x.isFinite then Json.floatLayout.render x else ['n', 'u', 'l', 'l']

namespace Json

/-- A character inside a text: quotes, backslashes and control characters are escaped. -/
def escapeChar (c : Char) : List Char :=
  match c with
  | '"' => ['\\', '"']
  | '\\' => ['\\', '\\']
  | '\x08' => ['\\', 'b']
  | '\x0c' => ['\\', 'f']
  | '\n' => ['\\', 'n']
  | '\r' => ['\\', 'r']
  | '\t' => ['\\', 't']
  | c =>
    if c.toNat < 0x20 then ['\\', 'u', '0', '0', Hex.digit (c.toNat / 16), Hex.digit (c.toNat % 16)]
    else [c]

/-- A text in quotes. -/
def quoted (s : String) : List Char :=
  '"' :: (s.toList.flatMap escapeChar ++ ['"'])

mutual

/-- The characters of a value, without space. -/
def chars : Json → List Char
  | .null => ['n', 'u', 'l', 'l']
  | .bool true => ['t', 'r', 'u', 'e']
  | .bool false => ['f', 'a', 'l', 's', 'e']
  | .number n => n.chars
  | .string s => quoted s
  | .array items => '[' :: (itemChars items ++ [']'])
  | .object members => '\x7b' :: (memberChars members ++ ['\x7d'])

/-- The items of an array, with commas between them. -/
def itemChars : List Json → List Char
  | [] => []
  | [v] => v.chars
  | v :: w :: rest => v.chars ++ ',' :: itemChars (w :: rest)

/-- The members of an object, with commas between them. -/
def memberChars : List (String × Json) → List Char
  | [] => []
  | [(k, v)] => quoted k ++ ':' :: v.chars
  | (k, v) :: w :: rest => quoted k ++ ':' :: (v.chars ++ ',' :: memberChars (w :: rest))

end

/-- The text of a value, without space (`serde_json::to_string`). -/
def text (v : Json) : String := String.ofList v.chars

/-- The text of a value with the members of every object in the order of their keys (`canonical_json`). -/
def canonicalText (v : Json) : String := v.sorted.text

/-- A new line, indented by two spaces a level. -/
def newline (level : Nat) : List Char := '\n' :: List.replicate (2 * level) ' '

mutual

/-- The characters of a value over several lines, at a level of indentation. -/
def prettyChars (level : Nat) : Json → List Char
  | .array [] => ['[', ']']
  | .array (v :: rest) =>
    '[' :: (newline (level + 1) ++ v.prettyChars (level + 1) ++ prettyItems (level + 1) rest ++
      newline level ++ [']'])
  | .object [] => ['\x7b', '\x7d']
  | .object ((k, v) :: rest) =>
    '\x7b' :: (newline (level + 1) ++ quoted k ++ ':' :: ' ' :: v.prettyChars (level + 1) ++
      prettyMembers (level + 1) rest ++ newline level ++ ['\x7d'])
  | v => v.chars

/-- The items after the first. -/
def prettyItems (level : Nat) : List Json → List Char
  | [] => []
  | v :: rest => ',' :: (newline level ++ v.prettyChars level ++ prettyItems level rest)

/-- The members after the first. -/
def prettyMembers (level : Nat) : List (String × Json) → List Char
  | [] => []
  | (k, v) :: rest =>
    ',' :: (newline level ++ quoted k ++ ':' :: ' ' :: v.prettyChars level ++ prettyMembers level rest)

end

/-- The text of a value over several lines (`serde_json::to_string_pretty`). -/
def pretty (v : Json) : String := String.ofList (v.prettyChars 0)

end Json
end FederatedLedger
