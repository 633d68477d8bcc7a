/-!
# Double precision numbers

A double is its 64 bits: sign, eleven bits of exponent, 52 bits of fraction. All arithmetic here is
exact on natural numbers and rounded once, to nearest with ties to even, by `roundRatio`. A finite
double is plus or minus `m * 2 ^ e` for the pair that `decode?` gives.
-/

namespace FederatedLedger

/-- `num / den` rounded to the nearest natural number, a half going to the even neighbour. -/
def roundHalfEven (num den : Nat) : Nat :=
  let q := num / den
  let r := num % den
  if 2 * r < den then q
  else if den < 2 * r then q + 1
  else if q % 2 = 0 then q else q + 1

/-- A double precision number, as the bits that hold it. -/
structure Binary64 where
  bits : UInt64
deriving DecidableEq, Repr, Inhabited

namespace Binary64

/-- The bit that holds the sign. -/
def signBit : Nat := 0x8000000000000000

/-- The bits of positive infinity. -/
def infinityBits : Nat := 0x7FF0000000000000

/-- The lowest bit of the exponent, `2 ^ 52`: also the leading bit of a significand, which is not stored. -/
def leadingBit : Nat := 0x10000000000000

/-- The number with the given sign whose other bits are `magnitude`. -/
def ofMagnitude (negative : Bool) (magnitude : Nat) : Binary64 :=
  ⟨UInt64.ofNat (if negative then signBit + magnitude else magnitude)⟩

/-- Whether the sign bit is set. -/
def negative (x : Binary64) : Bool := signBit ≤ x.bits.toNat

/-- All bits but the sign. -/
def magnitude (x : Binary64) : Nat := x.bits.toNat % signBit

/-- Neither an infinity nor a NaN. -/
def isFinite (x : Binary64) : Bool := x.magnitude < infinityBits

/-- Not a number. -/
def isNaN (x : Binary64) : Bool := infinityBits < x.magnitude

/-- Zero of either sign. -/
def isZero (x : Binary64) : Bool := x.magnitude = 0

/-- Greater than zero; a NaN is not. -/
def isPositive (x : Binary64) : Bool := !x.negative && !x.isZero && !x.isNaN

def zero : Binary64 := ⟨0⟩
def infinity (negative : Bool) : Binary64 := ofMagnitude negative infinityBits
def nan (negative : Bool) : Binary64 := ofMagnitude negative (infinityBits + leadingBit / 2)

/-- The absolute value of a finite double as `m` and `e` with value `m * 2 ^ e`. -/
def decode? (x : Binary64) : Option (Nat × Int) :=
  let field : Nat := x.magnitude / leadingBit
  let fraction : Nat := x.magnitude % leadingBit
  if field = 2047 then none
  else if field = 0 then some (fraction, -1074)
  else some (leadingBit + fraction, (field : Int) - 1075)

/-- `m * 2 ^ e` as a fraction of natural numbers. -/
def scale (m : Nat) (e : Int) : Nat × Nat :=
  if 0 ≤ e then (m * Nat.pow 2 e.toNat, 1) else (m, Nat.pow 2 (-e).toNat)

/-- The exponent of the last bit kept of `num / den`: 52 below the leading bit, but never below the
least exponent that a double has. -/
def lastBit (num den : Nat) : Int :=
  let guess : Int := (num.log2 : Int) - den.log2
  let (a, b) := scale den guess
  let lead := if a ≤ num * b then guess else guess - 1
  max (lead - 52) (-1074)

/-- The double nearest to `num / den`, a tie going to the even one, and an infinity past the largest. -/
def roundRatio (negative : Bool) (num den : Nat) : Binary64 :=
  if num = 0 then ofMagnitude negative 0
  else
    let e := lastBit num den
    let q := if 0 ≤ e then roundHalfEven num (den * Nat.pow 2 e.toNat)
      else roundHalfEven (num * Nat.pow 2 (-e).toNat) den
    -- a significand that reaches `2 ^ 53` carries into the exponent field
    let magnitude := (e + 1074).toNat * leadingBit + q
    if magnitude < infinityBits then ofMagnitude negative magnitude else infinity negative

/-- The double nearest to a natural number. -/
def ofNat (n : Nat) : Binary64 := roundRatio false n 1

/-- The double nearest to an integer. -/
def ofInt (n : Int) : Binary64 := roundRatio (n < 0) n.natAbs 1

/-- The double nearest to `digits * 10 ^ exponent`. Far outside the range of doubles no power is computed. -/
def ofDecimal (negative : Bool) (digits : Nat) (exponent : Int) : Binary64 :=
  if digits = 0 ∨ exponent < -(330 + (digits.log2 : Int)) then ofMagnitude negative 0
  else if 400 < exponent then infinity negative
  else if 0 ≤ exponent then roundRatio negative (digits * Nat.pow 10 exponent.toNat) 1
  else roundRatio negative digits (Nat.pow 10 (-exponent).toNat)

/-- The number with its sign turned. -/
def neg (x : Binary64) : Binary64 := ofMagnitude (!x.negative) x.magnitude

/-- The product of the absolute values of two finite doubles, rounded. -/
def mulAbs (x y : Binary64) : Binary64 :=
  match x.decode?, y.decode? with
  | some (m, e), some (n, f) => let (a, b) := scale (m * n) (e + f); roundRatio false a b
  | _, _ => infinity false

/-- The sum of the absolute values of two finite doubles, rounded. -/
def addAbs (x y : Binary64) : Binary64 :=
  match x.decode?, y.decode? with
  | some (m, e), some (n, f) =>
    let least := min e f
    let (a, b) := scale (m * Nat.pow 2 (e - least).toNat + n * Nat.pow 2 (f - least).toNat) least
    roundRatio false a b
  | _, _ => infinity false

/-- The quotient of the absolute values of two finite doubles, the second not zero, rounded. -/
def divAbs (x y : Binary64) : Binary64 :=
  match x.decode?, y.decode? with
  | some (m, e), some (n, f) =>
    let (a, b) := scale m (e - f)
    roundRatio false a (b * n)
  | _, _ => infinity false

end Binary64
end FederatedLedger
