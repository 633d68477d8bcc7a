/-!
# Punycode

A text beyond ASCII written with letters, digits and hyphens: first the ASCII characters as they are,
then, for each other character in the order of code points, how far the place of insertion moved on since
the last one. The distances are numbers with digits of varying weight, and the weights adapt to what was
written.

Texts of any length are written and read. Libraries for host names stop somewhere: the one that the driver is built
with writes no label of more than 1000 characters and reads none of more than 2000.
-/

namespace FederatedLedger
namespace Punycode

/-- The digit for a value below 36. -/
def digit (n : Nat) : Char := if n < 26 then Char.ofNat (97 + n) else Char.ofNat (22 + n)

/-- The value of a digit of either case. -/
def digitValue? (c : Char) : Option Nat :=
  let n := c.toNat
  if 97 ≤ n ∧ n ≤ 122 then some (n - 97)
  else if 65 ≤ n ∧ n ≤ 90 then some (n - 65)
  else if 48 ≤ n ∧ n ≤ 57 then some (n - 22)
  else none

/-- The least digit at position `k` that is not the last of its number. -/
def threshold (k bias : Nat) : Nat :=
  if k ≤ bias then 1 else if bias + 26 ≤ k then 26 else k - bias

/-- Counts how often a distance can be divided by 35 before it is small. -/
def flatten (k delta : Nat) : Nat × Nat :=
  if 455 < delta then flatten (k + 36) (delta / 35) else (k, delta)
termination_by delta

/-- The bias after a distance was written as the `count`-th one. -/
def adapt (delta count : Nat) (first : Bool) : Nat :=
  let delta := if first then delta / 700 else delta / 2
  let (k, delta) := flatten 0 (delta + delta / count)
  k + 36 * delta / (delta + 38)

/-- The digits of a distance, from position `k`. -/
def distance (bias k q : Nat) : List Char :=
  let t := threshold k bias
  if h : q < t ∨ t = 0 ∨ 36 ≤ t then [digit q]
  else digit (t + (q - t) % (36 - t)) :: distance bias (k + 36) ((q - t) / (36 - t))
termination_by q
decreasing_by
  exact Nat.lt_of_le_of_lt (Nat.div_le_self _ _) (by omega)

/-- The state of the writer: the distance so far, the bias, and how many characters are written. -/
structure Writer where
  delta : Nat
  bias : Nat
  written : Nat

/-- Goes through the text for the code point `m`, and writes a distance wherever it stands. -/
def writeAll (m basic : Nat) : Writer → List Nat → List Char × Writer
  | w, [] => ([], w)
  | w, c :: r =>
    if c < m then writeAll m basic { w with delta := w.delta + 1 } r
    else if c = m then
      let digits := distance w.bias 36 w.delta
      let bias := adapt w.delta (w.written + 1) (w.written = basic)
      let (rest, w) := writeAll m basic ⟨0, bias, w.written + 1⟩ r
      (digits ++ rest, w)
    else writeAll m basic w r

/-- Writes the distances for some code points in increasing order, all at least `n`. -/
def writeFrom (text : List Nat) (basic : Nat) : Nat → Writer → List Nat → List Char
  | _, _, [] => []
  | n, w, m :: ms =>
    let w := { w with delta := w.delta + (m - n) * (w.written + 1) }
    let (digits, w) := writeAll m basic w text
    digits ++ writeFrom text basic (m + 1) { w with delta := w.delta + 1 } ms

/-- Puts a number into an increasing list, once. -/
def insertOnce (n : Nat) : List Nat → List Nat
  | [] => [n]
  | m :: ms => if n < m then n :: m :: ms else if n = m then m :: ms else m :: insertOnce n ms

/-- A text in Punycode. -/
def encode (cs : List Char) : List Char :=
  let text := cs.map Char.toNat
  let basic := cs.filter fun c => c.toNat < 0x80
  let others := (text.filter (0x80 ≤ ·)).foldl (fun ms n => insertOnce n ms) []
  let start := if basic = [] then [] else basic ++ ['-']
  start ++ writeFrom text basic.length 0x80 ⟨0, 72, basic.length⟩ others

/-- The state of the reader: the text so far, the code point and place of the last insertion, the bias, and the
distance under way: where it started, its weight and the position of its next digit. -/
structure Reader where
  text : List Nat
  code : Nat
  place : Nat
  bias : Nat
  start : Nat
  weight : Nat
  position : Nat

/-- Reads a digit; the last one of a distance inserts a character. -/
def Reader.step? (s : Reader) (c : Char) : Option Reader := do
  let d ← digitValue? c
  let place := s.place + d * s.weight
  let t := threshold s.position s.bias
  if d < t then
    let count := s.text.length + 1
    let bias := adapt (place - s.start) count (s.start = 0)
    let code := s.code + place / count
    let i := place % count
    guard (code < 0x110000 ∧ ¬ (0xD800 ≤ code ∧ code < 0xE000))
    return ⟨s.text.take i ++ code :: s.text.drop i, code, i + 1, bias, i + 1, 1, 36⟩
  else return { s with place, weight := s.weight * (36 - t), position := s.position + 36 }

/-- The text before the last hyphen, and what stands after it. Without one, and if it stands first, all of
the text counts as after it. -/
def cutLastHyphen (cs : List Char) : List Char × List Char :=
  let tail := (cs.reverse.takeWhile (· ≠ '-')).reverse
  if cs.length ≤ tail.length + 1 then ([], cs)
  else (cs.take (cs.length - tail.length - 1), tail)

/-- The text that a Punycode text stands for. -/
def decode? (cs : List Char) : Option (List Char) := do
  let (basic, rest) := cutLastHyphen cs
  guard (basic.all fun c => c.toNat < 0x80)
  let start : Reader := ⟨basic.map Char.toNat, 0x80, 0, 72, 0, 1, 36⟩
  let s ← rest.foldlM Reader.step? start
  guard (s.position = 36)
  return s.text.map Char.ofNat

end Punycode
end FederatedLedger
