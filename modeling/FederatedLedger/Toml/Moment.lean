/-!
# Dates and times in TOML

A date, a time, or both, and with both perhaps an offset. Reading gives the usual spelling: a `T` between
date and time, fractions of a second to nine places without zeros at their end.
-/

namespace FederatedLedger
namespace Toml

/-- A number of exactly `n` digits from `least` to `greatest`. -/
def field? (n least greatest : Nat) (cs : List Char) : Option (Nat × List Char) :=
  let ds := cs.take n
  let value := ds.foldl (fun v d => 10 * v + (d.toNat - 48)) 0
  if ds.length = n ∧ ds.all Char.isDigit ∧ least ≤ value ∧ value ≤ greatest
  then some (value, cs.drop n) else none

/-- The rest after a character, if it is next. -/
def mark? (c : Char) : List Char → Option (List Char)
  | d :: r => if c = d then some r else none
  | [] => none

/-- A number with zeros in front, to a width. -/
def paddedNumber (width n : Nat) : List Char :=
  let ds := Nat.toDigits 10 n
  List.replicate (width - ds.length) '0' ++ ds

/-- The days of a month. -/
def daysIn (year month : Nat) : Nat :=
  if month = 2 then
    if year % 4 = 0 ∧ (year % 100 ≠ 0 ∨ year % 400 = 0) then 29 else 28
  else if month = 4 ∨ month = 6 ∨ month = 9 ∨ month = 11 then 30
  else 31

/-- Reads a date. -/
def date? (cs : List Char) : Option (List Char × List Char) := do
  let (year, r) ← field? 4 0 9999 cs
  let (month, r) ← field? 2 1 12 (← mark? '-' r)
  let (day, r) ← field? 2 1 (daysIn year month) (← mark? '-' r)
  return (paddedNumber 4 year ++ '-' :: paddedNumber 2 month ++ '-' :: paddedNumber 2 day, r)

/-- The fraction of a second, if there is one, to nine places and without zeros at its end. -/
def fraction (cs : List Char) : List Char × List Char :=
  match cs with
  | '.' :: r =>
    let ds := r.takeWhile Char.isDigit
    let kept := ((ds.take 9).reverse.dropWhile (· = '0')).reverse
    if ds = [] then ([], cs)
    else (if kept = [] then [] else '.' :: kept, r.drop ds.length)
  | _ => ([], cs)

/-- Reads a time of the day. -/
def time? (cs : List Char) : Option (List Char × List Char) := do
  let (hour, r) ← field? 2 0 23 cs
  let (minute, r) ← field? 2 0 59 (← mark? ':' r)
  let (second, r) ← field? 2 0 60 (← mark? ':' r)
  let (part, r) := fraction r
  return (paddedNumber 2 hour ++ ':' :: paddedNumber 2 minute ++ ':' :: paddedNumber 2 second ++ part, r)

/-- Reads an offset after its sign. -/
def signedOffset? (sign : Char) (cs : List Char) : Option (List Char × List Char) := do
  let (hour, r) ← field? 2 0 23 cs
  let (minute, r) ← field? 2 0 59 (← mark? ':' r)
  let sign := if hour = 0 ∧ minute = 0 then '+' else sign
  return (sign :: paddedNumber 2 hour ++ ':' :: paddedNumber 2 minute, r)

/-- Reads an offset. -/
def offset? : List Char → Option (List Char × List Char)
  | c :: r =>
    if c = 'Z' ∨ c = 'z' then some (['Z'], r)
    else if c = '+' ∨ c = '-' then signedOffset? c r
    else none
  | [] => none

/-- Reads a date, a time, or both. -/
def moment? (cs : List Char) : Option (List Char × List Char) :=
  match date? cs with
  | none => time? cs
  | some (date, rest) =>
    match rest with
    | [] => some (date, rest)
    | c :: r =>
      let time := if c = 'T' ∨ c = 't' ∨ c = ' ' then time? r else none
      match time with
      | none => some (date, rest)
      | some (time, r) =>
        let (offset, r) := (offset? r).getD ([], r)
        some (date ++ 'T' :: time ++ offset, r)

end Toml
end FederatedLedger
