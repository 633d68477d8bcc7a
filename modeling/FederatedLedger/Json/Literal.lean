import FederatedLedger.Json.Basic

/-!
# Number literals

How the digits of a JSON number become a value. Integers that fit into 64 bits stay exact. Everything
else is a double: the first digits that fit into 64 bits as a whole number, times a power of ten, each
rounded. `Literal.value?` is `none` exactly for literals too large for a double.
-/

namespace FederatedLedger

/-- A number literal: `whole.fraction` times ten to the `exponent`. The fraction is empty iff there is
no point. -/
structure Literal where
  negative : Bool
  whole : List Char
  fraction : List Char
  exponent : Option Int
deriving DecidableEq, Repr

namespace Literal

/-- The value of a decimal digit. -/
def digitValue (c : Char) : Nat := c.toNat - 48

/-- Takes digits while the number that they spell, after `n`, fits into 64 bits: the number and the
digits left over. -/
def takeDigits : Nat → List Char → Nat × List Char
  | n, [] => (n, [])
  | n, c :: r =>
    if 10 * n + digitValue c < UInt64.size then takeDigits (10 * n + digitValue c) r else (n, c :: r)

/-- The double for `significand * 10 ^ exponent`: the significand is rounded to a double, then
multiplied or divided by a power of ten that is rounded to a double. Powers of ten past the 308th are
applied in two steps. -/
def product (significand : Nat) (exponent : Int) : Binary64 :=
  let f := Binary64.ofNat significand
  let ten (k : Nat) := Binary64.ofNat (Nat.pow 10 k)
  if significand = 0 then Binary64.zero
  else if 308 < exponent then Binary64.infinity false
  else if 0 ≤ exponent then f.mulAbs (ten exponent.toNat)
  else if -308 ≤ exponent then f.divAbs (ten (-exponent).toNat)
  else if -616 ≤ exponent then (f.divAbs (ten 308)).divAbs (ten (-exponent - 308).toNat)
  else Binary64.zero

/-- The double that a literal with these parts stands for, `none` if it is out of range. Digits past
the first 64 bits count only by their place. -/
def float? (l : Literal) : Option Binary64 :=
  let (n, dropped) := takeDigits 0 l.whole
  let (m, rest) := takeDigits n l.fraction
  let taken := l.fraction.length - rest.length
  let exponent := (dropped.length : Int) - taken + l.exponent.getD 0
  let x := product m exponent
  if x.isFinite then some (if l.negative then x.neg else x) else none

/-- The number that a literal stands for. A literal without point and exponent is an integer if it fits
into 64 bits, signed if it has a minus sign; `-0` is a double. -/
def value? (l : Literal) : Option Number :=
  match takeDigits 0 l.whole, l.fraction, l.exponent with
  | (n, []), [], none =>
    if !l.negative then some (.int n)
    else if 0 < n ∧ Int64.minValue.toInt ≤ -n then some (.int (-n))
    else some (.float (Binary64.ofNat n).neg)
  | _, _, _ => l.float?.map .float

end Literal

end FederatedLedger
