import FederatedLedger.Text.Encoding

/-!
# Blanks, comments and texts in TOML

The parts of a TOML document below its values: blanks, line ends, comments, and the four kinds of texts. A
text stands between quotes, where a backslash escapes, or between apostrophes, where nothing does; three of
either hold a text of several lines.
-/

namespace FederatedLedger
namespace Toml

def isBlankChar (c : Char) : Bool := c = ' ' || c = '\t'

def skipBlanks (cs : List Char) : List Char := cs.dropWhile isBlankChar

/-- The characters that texts and comments hold: no control character but the tab. -/
def isPrintable (c : Char) : Bool := c = '\t' || (0x20 ≤ c.toNat && c.toNat ≠ 0x7F)

/-- The rest after a line end, if one is next. -/
def lineBreak? : List Char → Option (List Char)
  | '\n' :: r => some r
  | '\r' :: '\n' :: r => some r
  | _ => none

/-- Leaves out blanks, line ends and comments. A comment that holds a control character stops there. -/
def skipLines : Bool → List Char → List Char
  | _, [] => []
  | _, '\n' :: r => skipLines false r
  | _, '\r' :: '\n' :: r => skipLines false r
  | false, c :: r =>
    if isBlankChar c then skipLines false r else if c = '#' then skipLines true r else c :: r
  | true, c :: r => if isPrintable c then skipLines true r else c :: r

/-- The rest after the end of a line: blanks, perhaps a comment, and a line break or the end of the text. -/
def lineEnd? (cs : List Char) : Option (List Char) :=
  let r := match skipBlanks cs with
    | '#' :: r => r.dropWhile isPrintable
    | r => r
  match r with
  | [] => some []
  | r => lineBreak? r

/-- The character with this number, if there is one. -/
def charOf? (n : Nat) : Option Char := if n.isValidChar then some (Char.ofNat n) else none

/-- The number that hexadecimal digits spell. -/
def hexValue? (ds : List Char) : Option Nat :=
  ds.foldlM (fun n d => (Hex.digitValue? d).map (16 * n + ·)) 0

/-- The character that a one-letter escape stands for. -/
def escape? : Char → Option Char
  | '"' => some '"'
  | '\\' => some '\\'
  | 'b' => some '\x08'
  | 'f' => some '\x0c'
  | 'n' => some '\n'
  | 'r' => some '\r'
  | 't' => some '\t'
  | _ => none

/-- Puts a character in front of the text that was read. -/
def withChar (c : Char) (r : List Char × List Char) : List Char × List Char := (c :: r.1, r.2)

/-- Reads a text up to its closing quote. -/
def quoted? : List Char → Option (List Char × List Char)
  | [] => none
  | '"' :: r => some ([], r)
  | '\\' :: 'u' :: a :: b :: c :: d :: r => do
    let e ← charOf? (← hexValue? [a, b, c, d])
    return withChar e (← quoted? r)
  | '\\' :: 'U' :: a :: b :: c :: d :: e :: f :: g :: h :: r => do
    let e ← charOf? (← hexValue? [a, b, c, d, e, f, g, h])
    return withChar e (← quoted? r)
  | '\\' :: e :: r => do return withChar (← escape? e) (← quoted? r)
  | c :: r => if isPrintable c then (quoted? r).map (withChar c) else none

/-- Reads a text up to its closing apostrophe. -/
def literal? : List Char → Option (List Char × List Char)
  | [] => none
  | '\'' :: r => some ([], r)
  | c :: r => if isPrintable c then (literal? r).map (withChar c) else none

/-- Whether only blanks stand before the next line break. -/
def endsLine (cs : List Char) : Bool := (lineBreak? (skipBlanks cs)).isSome

/-- Up to two marks before the three that close a text belong to the text. -/
def closing (mark : Char) : List Char → List Char × List Char
  | a :: b :: r =>
    if a = mark ∧ b = mark then ([mark, mark], r)
    else if a = mark then ([mark], b :: r)
    else ([], a :: b :: r)
  | [a] => if a = mark then ([mark], []) else ([], [a])
  | [] => ([], [])

/-- Reads a text of several lines up to its closing quotes. While `folding`, after a backslash at the end of
a line, blanks and line breaks are left out. -/
def quotedLines? : Bool → List Char → Option (List Char × List Char)
  | _, [] => none
  | folding, '\n' :: r =>
    if folding then quotedLines? true r else (quotedLines? false r).map (withChar '\n')
  | folding, '\r' :: '\n' :: r =>
    if folding then quotedLines? true r else (quotedLines? false r).map (withChar '\n')
  | _, '"' :: '"' :: '"' :: r => some (closing '"' r)
  | _, '\\' :: 'u' :: a :: b :: c :: d :: r => do
    let e ← charOf? (← hexValue? [a, b, c, d])
    return withChar e (← quotedLines? false r)
  | _, '\\' :: 'U' :: a :: b :: c :: d :: e :: f :: g :: h :: r => do
    let e ← charOf? (← hexValue? [a, b, c, d, e, f, g, h])
    return withChar e (← quotedLines? false r)
  | _, '\\' :: e :: r =>
    if endsLine (e :: r) then
      match e, r with
      | '\r', '\n' :: r => quotedLines? true r
      | _, r => quotedLines? true r
    else do return withChar (← escape? e) (← quotedLines? false r)
  | folding, c :: r =>
    if folding && isBlankChar c then quotedLines? true r
    else if isPrintable c then (quotedLines? false r).map (withChar c)
    else none

/-- Reads a text of several lines up to its closing apostrophes. -/
def literalLines? : List Char → Option (List Char × List Char)
  | [] => none
  | '\n' :: r => (literalLines? r).map (withChar '\n')
  | '\r' :: '\n' :: r => (literalLines? r).map (withChar '\n')
  | '\'' :: '\'' :: '\'' :: r => some (closing '\'' r)
  | c :: r => if isPrintable c then (literalLines? r).map (withChar c) else none

/-- The text after a line break that follows the opening marks at once. -/
def skipLineBreak (cs : List Char) : List Char := (lineBreak? cs).getD cs

/-- Reads a text with its marks. -/
def text? : List Char → Option (String × List Char)
  | '"' :: '"' :: '"' :: r => (quotedLines? false (skipLineBreak r)).map fun (s, r) => (String.ofList s, r)
  | '"' :: r => (quoted? r).map fun (s, r) => (String.ofList s, r)
  | '\'' :: '\'' :: '\'' :: r => (literalLines? (skipLineBreak r)).map fun (s, r) => (String.ofList s, r)
  | '\'' :: r => (literal? r).map fun (s, r) => (String.ofList s, r)
  | _ => none

end Toml
end FederatedLedger
