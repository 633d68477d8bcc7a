import FederatedLedger.Json.Basic
import FederatedLedger.Text.Encoding

/-!
# Numbers in TOML

Integers have 64 bits and a sign, and may be written in four bases; floats are doubles. An underscore may
stand between two digits. A float past the largest double is refused; one past the least is an infinity.
-/

namespace FederatedLedger
namespace Toml

/-- Digits after the first one, with underscores between them left out. -/
def moreDigits? (isDigit : Char → Bool) : List Char → Option (List Char × List Char)
  | '_' :: d :: r =>
    if isDigit d then (moreDigits? isDigit r).map fun (ds, r) => (d :: ds, r) else none
  | ['_'] => none
  | d :: r =>
    if isDigit d then (moreDigits? isDigit r).map fun (ds, r) => (d :: ds, r) else some ([], d :: r)
  | [] => some ([], [])

/-- At least one digit, and the rest. -/
def digits? (isDigit : Char → Bool) : List Char → Option (List Char × List Char)
  | d :: r =>
    if isDigit d then (moreDigits? isDigit r).map fun (ds, r) => (d :: ds, r) else none
  | [] => none

/-- The number that digits of a base spell. -/
def valueIn (base : Nat) (ds : List Char) : Nat :=
  ds.foldl (fun n d => base * n + (Hex.digitValue? d).getD 0) 0

/-- An integer, if it has 64 bits. -/
def integer? (n : Int) : Option Number :=
  if Int64.minValue.toInt ≤ n ∧ n ≤ Int64.maxValue.toInt then some (.int n) else none

/-- An integer in a base other than ten, after its mark. -/
def based? (base : Nat) (cs : List Char) : Option (Number × List Char) := do
  let (ds, r) ← digits? (fun d => (Hex.digitValue? d).any (· < base)) cs
  return (← integer? (valueIn base ds), r)

/-- The whole part of a number in base ten: it starts with a zero only if it is zero. -/
def wholePart? : List Char → Option (List Char × List Char)
  | '0' :: r => some (['0'], r)
  | cs => digits? Char.isDigit cs

/-- The exponent of a float, if there is one. -/
def exponentPart? : List Char → Option (Option Int × List Char)
  | e :: r =>
    if e = 'e' ∨ e = 'E' then
      let (negative, r) := match r with
        | '-' :: r => (true, r)
        | '+' :: r => (false, r)
        | r => (false, r)
      (digits? Char.isDigit r).map fun (ds, r) =>
        let n : Int := valueIn 10 ds
        (some (if negative then -n else n), r)
    else some (none, e :: r)
  | [] => some (none, [])

/-- A float with these parts, if it is not too large. -/
def float? (negative : Bool) (whole fraction : List Char) (exponent : Int) : Option Number :=
  let x := Binary64.ofDecimal negative (valueIn 10 (whole ++ fraction)) (exponent - fraction.length)
  if x = Binary64.infinity false then none else some (.float x)

/-- A number in base ten, after its sign. -/
def decimal? (negative : Bool) (cs : List Char) : Option (Number × List Char) := do
  let (whole, r) ← wholePart? cs
  match r with
  | '.' :: r =>
    let (fraction, r) ← digits? Char.isDigit r
    let (exponent, r) ← exponentPart? r
    return (← float? negative whole fraction (exponent.getD 0), r)
  | r =>
    let (exponent, r) ← exponentPart? r
    match exponent with
    | some e => return (← float? negative whole [] e, r)
    | none =>
      let n : Int := valueIn 10 whole
      return (← integer? (if negative then -n else n), r)

/-- A number after its sign; it may be `inf` or `nan`. -/
def unsigned? (negative : Bool) : List Char → Option (Number × List Char)
  | 'i' :: 'n' :: 'f' :: r => some (.float (Binary64.infinity negative), r)
  | 'n' :: 'a' :: 'n' :: r => some (.float (Binary64.nan negative), r)
  | cs => decimal? negative cs

/-- Reads a number. -/
def number? : List Char → Option (Number × List Char)
  | '+' :: r => unsigned? false r
  | '-' :: r => unsigned? true r
  | '0' :: 'x' :: r => based? 16 r
  | '0' :: 'o' :: r => based? 8 r
  | '0' :: 'b' :: r => based? 2 r
  | cs => unsigned? false cs

end Toml
end FederatedLedger
