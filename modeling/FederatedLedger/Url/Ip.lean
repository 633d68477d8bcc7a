import FederatedLedger.Text.Encoding
import FederatedLedger.Text.Split

/-!
# Addresses of hosts

IPv4 addresses with one to four parts, each decimal, octal after `0` or hexadecimal after `0x`, the last
part filling all that is left; and IPv6 addresses with one gap of zeros and an IPv4 address for the last two
pieces. Both are written in one way only: four decimal parts, and pieces with the longest run of zeros left
out.
-/

namespace FederatedLedger
namespace Ipv4

/-- The number that digits spell in a base, if all of them are digits of it. -/
def digits? (base : Nat) (cs : List Char) : Option Nat :=
  cs.foldlM (fun n c => do
    let d ← Hex.digitValue? c
    guard (d < base)
    return base * n + d) 0

/-- A part of an address. A bare `0x` is zero. -/
def part? : List Char → Option Nat
  | [] => none
  | '0' :: 'x' :: r => digits? 16 r
  | '0' :: 'X' :: r => digits? 16 r
  | ['0'] => some 0
  | '0' :: r => digits? 8 r
  | cs => digits? 10 cs

/-- The parts of a host name, without an empty last one. -/
def parts (cs : List Char) : List (List Char) :=
  let ps := splitAtEach (· == '.') cs
  if ps.getLast? = some [] then ps.dropLast else ps

/-- Whether a host name is meant as an address: its last part is made of digits or is a number. -/
def isMeant (cs : List Char) : Bool :=
  match (parts cs).getLast? with
  | none => false
  | some last => (last ≠ [] && last.all Char.isDigit) || (part? last).isSome

/-- The address of parts: all but the last are bytes, and the last fills the bytes that are left. -/
def ofParts? (numbers : List Nat) : Option Nat :=
  match numbers.reverse with
  | [] => none
  | last :: front =>
    if 3 < front.length ∨ Nat.pow 256 (4 - front.length) ≤ last ∨ front.any (255 < ·) then none
    else some (front.reverse.foldl (fun (sum, weight) n => (sum + n * weight, weight / 256))
      (last, 16777216)).1

/-- Reads an address of 32 bits. -/
def parse? (cs : List Char) : Option Nat := do
  ofParts? (← (parts cs).mapM part?)

/-- An address as four decimal parts. -/
def chars (address : Nat) : List Char :=
  joinWith ['.'] ([16777216, 65536, 256, 1].map fun w => Nat.toDigits 10 (address / w % 256))

end Ipv4

namespace Ipv6

/-- A byte in decimal, without leading zeros. -/
def byte? (cs : List Char) : Option Nat := do
  guard (cs ≠ [] ∧ cs.length ≤ 3 ∧ (cs.length = 1 ∨ cs.head? ≠ some '0'))
  let n ← Ipv4.digits? 10 cs
  guard (n ≤ 255)
  return n

/-- The last two pieces, written as an IPv4 address. -/
def tail? (cs : List Char) : Option (List Nat) := do
  match ← (splitAtEach (· == '.') cs).mapM byte? with
  | [a, b, c, d] => return [256 * a + b, 256 * c + d]
  | _ => none

/-- Reads pieces: `left` of them may still come, `done` are read, and the gap ends after `gap` of them. -/
def pieces? : Nat → List Nat → Option Nat → List Char → Option (List Nat × Option Nat)
  | _, done, gap, [] => some (done, gap)
  | 0, _, _, _ :: _ => none
  | left + 1, done, gap, ':' :: r =>
    if gap.isSome then none else pieces? left (done ++ [0]) (some (done.length + 1)) r
  | left + 1, done, gap, cs => do
    let isDigit (c : Char) : Bool := (Hex.digitValue? c).isSome
    let digits := (cs.take 4).takeWhile isDigit
    guard (digits ≠ [])
    let piece ← Ipv4.digits? 16 digits
    match cs.drop digits.length with
    | [] => return (done ++ [piece], gap)
    | '.' :: _ =>
      guard (done.length ≤ 6)
      return (done ++ (← tail? cs), gap)
    | ':' :: r =>
      guard (r ≠ [])
      pieces? left (done ++ [piece]) gap r
    | _ => none

/-- The eight pieces: without a gap all of them are written, and a gap stands for the zeros missing. -/
def fill? (done : List Nat) (gap : Option Nat) : Option (List Nat) :=
  match gap with
  | none => if done.length = 8 then some done else none
  | some g => some (done.take g ++ List.replicate (8 - done.length) 0 ++ done.drop g)

/-- Reads an address of eight pieces, given what stands between its brackets. -/
def parse? (cs : List Char) : Option (List Nat) := do
  let (done, gap) ← match cs with
    | ':' :: ':' :: r => pieces? 7 [0] (some 1) r
    | ':' :: _ => none
    | _ => pieces? 8 [] none cs
  fill? done gap

/-- The start and length of the first longest run of zeros, given the run under way before index `i` and the best
one so far. -/
def longestZeros : Nat → Nat → Nat × Nat → List Nat → Nat × Nat
  | _, _, best, [] => best
  | i, run, best, p :: r =>
    if p = 0 then
      let run := run + 1
      longestZeros (i + 1) run (if best.2 < run then (i + 1 - run, run) else best) r
    else longestZeros (i + 1) 0 best r

/-- Pieces with colons between them. -/
def joined (ps : List Nat) : List Char := joinWith [':'] (ps.map Hex.ofNat)

/-- An address in brackets, the first longest run of at least two zeros left out. -/
def chars (pieces : List Nat) : List Char :=
  let (start, length) := longestZeros 0 0 (0, 0) pieces
  let body :=
    if length < 2 then joined pieces
    else joined (pieces.take start) ++ ':' :: ':' :: joined (pieces.drop (start + length))
  '[' :: (body ++ [']'])

end Ipv6
end FederatedLedger
