import FederatedLedger.Text.Split
import FederatedLedger.Unicode.Folding
import FederatedLedger.Unicode.Composition
import FederatedLedger.Unicode.Direction
import FederatedLedger.Unicode.Table
import FederatedLedger.Url.Punycode

/-!
# International host names

A host name is folded and composed as a whole, then cut into labels at its dots. A label beyond ASCII is
written in Punycode after `xn--`, and a label that already starts so has to stand for one that could be
written so. Labels of any length, and empty ones, may be there.
-/

namespace FederatedLedger
namespace Idna

/-- The ASCII characters that no folded host name holds. -/
def isForbidden (c : Char) : Bool :=
  c.toNat ≤ 0x20 || c.toNat == 0x7F || c.isUpper ||
  ['%', '#', '/', ':', '<', '>', '?', '@', '[', '\\', ']', '^', '|'].contains c

def isAscii (cs : List Char) : Bool := cs.all fun c => c.toNat < 0x80

/-- What starts a label in Punycode. -/
def mark : List Char := ['x', 'n', '-', '-']

/-- Whether every joiner stands where one may: after a mark that ends a consonant, or, for the one that keeps
letters apart, between letters that would join. `before` is the label up to here, last first. -/
def joinersFit : List Char → List Char → Bool
  | _, [] => true
  | before, c :: r =>
    (if c.toNat = 0x200C ∨ c.toNat = 0x200D then
      (before.head?.any fun b => Composition.combiningClass b.toNat == 9) ||
      (c.toNat == 0x200C &&
        ((before.dropWhile Joining.isTransparent).head?.any Joining.joinsAfter) &&
        ((r.dropWhile Joining.isTransparent).head?.any Joining.joinsBefore))
    else true) && joinersFit (c :: before) r

/-- Whether a label beyond ASCII may be used. -/
def isValid (cs : List Char) : Bool :=
  cs.all (fun c => Folding.char? c == some [c]) && Composition.compose cs == cs &&
  !(cs.head?.any Direction.isMark) && joinersFit [] cs

/-- What a label stands for: itself, or what its Punycode spells. -/
def meaning? (cs : List Char) : Option (List Char) :=
  if mark.isPrefixOf cs then do
    guard (isAscii cs)
    let u ← Punycode.decode? (cs.drop 4)
    guard (!isAscii u && isValid u)
    return u
  else if isAscii cs then some cs
  else if isValid cs then some cs
  else none

/-- A label as ASCII. -/
def labelChars (cs : List Char) : List Char :=
  if isAscii cs then cs else mark ++ Punycode.encode cs

/-- The ASCII form of a host name, `none` if it has none. There is no limit on the length of a name or a label. -/
def toAscii? (cs : List Char) : Option (List Char) := do
  let folded ← cs.mapM Folding.char?
  let name := folded.flatten
  let name := if isAscii name then name else Composition.compose name
  let labels := splitAtEach (· == '.') name
  let meant ← labels.mapM meaning?
  guard (!meant.any Direction.isRightToLeft || meant.all Direction.isOrderly)
  let ascii := joinWith ['.'] (labels.map labelChars)
  guard (!ascii.any isForbidden)
  return ascii

end Idna
end FederatedLedger
