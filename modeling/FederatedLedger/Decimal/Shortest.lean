import FederatedLedger.Decimal.Binary64

/-!
# The shortest decimal that reads back

`shortest m e` finds the decimal with the fewest digits in the interval of reals that round to the
double `m * 2 ^ e`, and among those the one nearest to it. The grids of multiples of `10 ^ p` are tried
from coarse to fine; if a point of a grid lies in the interval, so does one of the two neighbours of
the value on that grid, so two points of each grid are enough.

`Layout` holds the choices of an output format: where positional notation ends and what is written
around the digits.
-/

namespace FederatedLedger

/-- A decimal `digits * 10 ^ exponent`. -/
structure Decimal where
  digits : Nat
  exponent : Int
deriving DecidableEq, Repr

namespace Decimal

/-- `a * 10 ^ p` as a fraction of natural numbers. -/
def scaleTen (a : Nat) (p : Int) : Nat × Nat :=
  if 0 ≤ p then (a * Nat.pow 10 p.toNat, 1) else (a, Nat.pow 10 (-p).toNat)

/-- The reals that round to a double, as multiples of `unit`: between `low` and `high`, the ends
included iff `closed`, around `value`. -/
structure Interval where
  low : Nat
  value : Nat
  high : Nat
  closed : Bool
  unit : Nat × Nat

/-- The interval of `m * 2 ^ e`. Below a power of two the next double is half as far away. -/
def interval (m : Nat) (e : Int) : Interval :=
  { low := if m = Binary64.leadingBit ∧ -1074 < e then 4 * m - 1 else 4 * m - 2
    value := 4 * m
    high := 4 * m + 2
    closed := m % 2 = 0
    unit := Binary64.scale 1 (e - 2) }

/-- Whether `g * 10 ^ p` lies in the interval. -/
def Interval.contains (i : Interval) (g : Nat) (p : Int) : Bool :=
  let (a, b) := scaleTen g p
  let x := a * i.unit.2
  let lo := i.low * i.unit.1 * b
  let hi := i.high * i.unit.1 * b
  if i.closed then lo ≤ x && x ≤ hi else lo < x && x < hi

/-- The greatest `g` with `g * 10 ^ p` at most the value. -/
def Interval.below (i : Interval) (p : Int) : Nat :=
  let (a, b) := scaleTen 1 p
  i.value * i.unit.1 * b / (i.unit.2 * a)

/-- Whether the value lies nearer to `(g + 1) * 10 ^ p` than to `g * 10 ^ p`, a tie going to the even one. -/
def Interval.nearerAbove (i : Interval) (g : Nat) (p : Int) : Bool :=
  let (a, b) := scaleTen (2 * g + 1) p
  let middle := a * i.unit.2
  let v := 2 * (i.value * i.unit.1) * b
  middle < v || (middle = v && g % 2 = 1)

/-- The point of the grid `10 ^ p` to choose, if one of the two neighbours of the value is in the interval. -/
def Interval.pick? (i : Interval) (p : Int) : Option Nat :=
  let g := i.below p
  match i.contains g p, i.contains (g + 1) p with
  | true, true => some (if i.nearerAbove g p then g + 1 else g)
  | true, false => some g
  | false, true => some (g + 1)
  | false, false => none

/-- Tries `n` grids, from `10 ^ p` downwards. -/
def Interval.search (i : Interval) : Nat → Int → Decimal
  | 0, p => ⟨i.below p, p⟩
  | n + 1, p =>
    match i.pick? p with
    | some g => ⟨g, p⟩
    | none => i.search n (p - 1)

/-- The digits without trailing zeros, in at most `n` steps. -/
def stripZeros : Nat → Decimal → Decimal
  | 0, d => d
  | n + 1, d => if d.digits % 10 = 0 then stripZeros n ⟨d.digits / 10, d.exponent + 1⟩ else d

/-- The shortest decimal that rounds to `m * 2 ^ e`, for `m` not zero. -/
def shortest (m : Nat) (e : Int) : Decimal :=
  -- `top` is at least the decimal exponent of the value, and at most two above it
  let top := ((m.log2 : Int) + 1 + e) * 30103 / 100000 + 1
  stripZeros 20 ((interval m e).search 20 top)

/-- The digits as text. -/
def text (d : Decimal) : List Char := Nat.toDigits 10 d.digits

/-- Where the first digit stands: the `n` with value `0.d₁d₂… * 10 ^ n`. -/
def pointPosition (d : Decimal) : Int := d.text.length + d.exponent

/-- Digits with a decimal point, no exponent: a point only if a fraction follows. -/
def positional (d : Decimal) : List Char :=
  let n := d.pointPosition
  if n ≤ 0 then '0' :: '.' :: (List.replicate (-n).toNat '0' ++ d.text)
  else if d.text.length ≤ n.toNat then d.text ++ List.replicate (n.toNat - d.text.length) '0'
  else d.text.take n.toNat ++ '.' :: d.text.drop n.toNat

/-- One digit before the point and an exponent after the rest, its sign always written. -/
def scientific (d : Decimal) : List Char :=
  let e := d.pointPosition - 1
  let exponent := 'e' :: (if e < 0 then '-' else '+') :: Nat.toDigits 10 e.natAbs
  match d.text with
  | [] => exponent
  | [c] => c :: exponent
  | c :: r => c :: '.' :: (r ++ exponent)

end Decimal

/-- The choices of a format for finite doubles. -/
structure Layout where
  /-- The decimal exponents that are written positionally. -/
  isPositional : Int → Bool
  /-- Whether a whole number ends in `.0`. -/
  keepsPoint : Bool

/-- A finite double in a layout: a minus sign for the sign bit, and the shortest digits. -/
def Layout.render (l : Layout) (x : Binary64) : List Char :=
  let sign := if x.negative then ['-'] else []
  match x.decode? with
  | none => []
  | some (0, _) => sign ++ (if l.keepsPoint then ['0', '.', '0'] else ['0'])
  | some (m, e) =>
    let d := Decimal.shortest m e
    if l.isPositional (d.pointPosition - 1) then
      let body := d.positional
      sign ++ body ++ (if l.keepsPoint && 0 ≤ d.exponent then ['.', '0'] else [])
    else sign ++ d.scientific

/-- Plain text for messages: never an exponent, no point after a whole number, and words for the rest. -/
def Binary64.plainText (x : Binary64) : String :=
  if x.isNaN then "NaN"
  else if x.isFinite then String.ofList (Layout.render ⟨fun _ => true, false⟩ x)
  else if x.negative then "-inf" else "inf"

end FederatedLedger
