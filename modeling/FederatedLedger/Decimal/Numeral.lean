import FederatedLedger.Decimal.Binary64

/-!
# Reading decimal numbers

A double from text: an optional sign, digits with at most one point among them, and an optional exponent, or
the words for infinity and for what is no number, in any case. An integer from text: an optional sign and
digits.
-/

namespace FederatedLedger

/-- The digits at the front of a text, and the rest. -/
def spanDigits (cs : List Char) : List Char × List Char :=
  (cs.takeWhile Char.isDigit, cs.dropWhile Char.isDigit)

/-- The natural number that decimal digits spell. -/
def digitsNat (ds : List Char) : Nat := ds.foldl (fun n d => 10 * n + (d.toNat - 48)) 0

/-- A sign in front: whether it is a minus, and the rest. -/
def signOf : List Char → Bool × List Char
  | '-' :: r => (true, r)
  | '+' :: r => (false, r)
  | r => (false, r)

/-- The integer that a whole text spells. -/
def integerOf? (s : String) : Option Int :=
  let (negative, r) := signOf s.toList
  if r = [] ∨ r.any (fun c => !c.isDigit) then none
  else some (if negative then -(digitsNat r : Int) else digitsNat r)

/-- The natural number that a whole text spells; it may have a plus sign. -/
def naturalOf? (s : String) : Option Nat :=
  match signOf s.toList with
  | (true, _) => none
  | (false, r) => if r = [] ∨ r.any (fun c => !c.isDigit) then none else some (digitsNat r)

namespace Binary64

/-- An exponent to the end of a text; without one it is zero. -/
def exponentOf? : List Char → Option Int
  | [] => some 0
  | e :: r =>
    if e = 'e' ∨ e = 'E' then
      let (negative, ds) := signOf r
      if ds = [] ∨ ds.any (fun c => !c.isDigit) then none
      else some (if negative then -(digitsNat ds : Int) else digitsNat ds)
    else none

/-- Reads a number without its sign. -/
def ofUnsigned? (negative : Bool) (cs : List Char) : Option Binary64 :=
  let word := String.ofList (cs.map Char.toLower)
  if word = "inf" ∨ word = "infinity" then some (infinity negative)
  else if word = "nan" then some (nan negative)
  else
    let (whole, r) := spanDigits cs
    let (fraction, r) := match r with
      | '.' :: r => spanDigits r
      | r => ([], r)
    if whole = [] ∧ fraction = [] then none
    else (exponentOf? r).map fun e =>
      ofDecimal negative (digitsNat (whole ++ fraction)) (e - fraction.length)

/-- The double nearest to the number that a whole text spells. -/
def parse? (s : String) : Option Binary64 :=
  let (negative, r) := signOf s.toList
  ofUnsigned? negative r

end Binary64
end FederatedLedger
