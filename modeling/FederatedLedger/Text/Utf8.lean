import FederatedLedger.Text.Encoding

/-!
# Reading UTF-8

A decoder that never fails. A maximal run of bytes that starts a character but does not finish it,
and every byte that can start none, is read as one U+FFFD. On the encoding of a text it gives the
text back.
-/

namespace FederatedLedger
namespace Utf8

/-- A character under way: the value of the bytes read so far, the number of continuation bytes
still owed, and the least and greatest value that the next one may have. -/
structure Pending where
  value : Nat
  owed : Nat
  low : Nat
  high : Nat

/-- What the first byte of a character says about the bytes after it. -/
def start (b : Nat) : Option Pending :=
  if b < 0x80 then some ⟨b, 0, 0x80, 0xBF⟩
  else if 0xC2 ≤ b ∧ b ≤ 0xDF then some ⟨b - 0xC0, 1, 0x80, 0xBF⟩
  else if b = 0xE0 then some ⟨0, 2, 0xA0, 0xBF⟩
  else if b = 0xED then some ⟨0xD, 2, 0x80, 0x9F⟩
  else if 0xE1 ≤ b ∧ b ≤ 0xEF then some ⟨b - 0xE0, 2, 0x80, 0xBF⟩
  else if b = 0xF0 then some ⟨0, 3, 0x90, 0xBF⟩
  else if 0xF1 ≤ b ∧ b ≤ 0xF3 then some ⟨b - 0xF0, 3, 0x80, 0xBF⟩
  else if b = 0xF4 then some ⟨4, 3, 0x80, 0x8F⟩
  else none

/-- The character that stands for bytes that spell none. -/
def replacement : Char := Char.ofNat 0xFFFD

/-- The characters read, in front of the reading of the rest, and the state after a byte `b` that
stands where a character starts. -/
def begin (b : Nat) : List Char × Option Pending :=
  match start b with
  | none => ([replacement], none)
  | some p => if p.owed = 0 then ([Char.ofNat p.value], none) else ([], some p)

/-- The characters that byte `b` finishes, and the state after it. -/
def step (state : Option Pending) (b : Nat) : List Char × Option Pending :=
  match state with
  | none => begin b
  | some p =>
    if p.low ≤ b ∧ b ≤ p.high then
      let value := 64 * p.value + (b - 0x80)
      if p.owed = 1 then ([Char.ofNat value], none) else ([], some ⟨value, p.owed - 1, 0x80, 0xBF⟩)
    else
      let (cs, next) := begin b
      (replacement :: cs, next)

/-- Reads the rest of a byte sequence from a state. -/
def decodeFrom : Option Pending → Bytes → List Char
  | none, [] => []
  | some _, [] => [replacement]
  | state, b :: bs =>
    let (cs, next) := step state b.toNat
    cs ++ decodeFrom next bs

/-- The text that a byte sequence spells, with U+FFFD where it spells none. -/
def decode (bs : Bytes) : String :=
  String.ofList (decodeFrom none bs)

/-- The text that a byte sequence encodes, if it encodes one. -/
def decode? (bs : Bytes) : Option String :=
  if utf8 (decode bs) = bs then some (decode bs) else none

end Utf8
end FederatedLedger
