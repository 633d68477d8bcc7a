import FederatedLedger.Decimal.Shortest

/-!
# Durations and instants

A duration is a number of nanoseconds up to a largest one, and arithmetic that would pass it stays at it.
An instant is a number of nanoseconds since some start; instants end too, so an instant plus a duration
may not exist.
-/

namespace FederatedLedger

/-- The longest duration, in nanoseconds: one nanosecond less than `2 ^ 64` seconds. -/
def maxNanos : Nat := UInt64.size * 1000000000 - 1

/-- A length of time. -/
structure Duration where
  nanos : Nat
  nanos_le : nanos ≤ maxNanos
deriving DecidableEq, Repr

namespace Duration

/-- A number of nanoseconds, or the longest duration. -/
def ofNanos (n : Nat) : Duration := ⟨min n maxNanos, Nat.min_le_right _ _⟩

def zero : Duration := ofNanos 0
def longest : Duration := ofNanos maxNanos

/-- A number of milliseconds, or the longest duration. -/
def ofMillis (n : Nat) : Duration := ofNanos (n * 1000000)

/-- A number of seconds, or the longest duration. -/
def ofSecs (n : Nat) : Duration := ofNanos (n * 1000000000)

instance : Inhabited Duration := ⟨zero⟩
instance : LE Duration := ⟨fun a b => a.nanos ≤ b.nanos⟩
instance : LT Duration := ⟨fun a b => a.nanos < b.nanos⟩
instance (a b : Duration) : Decidable (a ≤ b) := inferInstanceAs (Decidable (a.nanos ≤ b.nanos))
instance (a b : Duration) : Decidable (a < b) := inferInstanceAs (Decidable (a.nanos < b.nanos))

def isZero (d : Duration) : Bool := d.nanos = 0

/-- The shorter of two durations. -/
def least (a b : Duration) : Duration := if a ≤ b then a else b

/-- Half of a duration, rounded down. -/
def half (d : Duration) : Duration := ofNanos (d.nanos / 2)

/-- A duration taken several times. -/
def times (d : Duration) (n : Nat) : Duration := ofNanos (d.nanos * n)

/-- Two durations together. -/
def plus (a b : Duration) : Duration := ofNanos (a.nanos + b.nanos)

/-- The whole milliseconds of a duration. -/
def millis (d : Duration) : Nat := d.nanos / 1000000

/-- The whole milliseconds of a duration, as far as 64 bits hold them. -/
def millisWord (d : Duration) : UInt64 := UInt64.ofNat d.millis

/-- A duration rounded up to a multiple of `tick` nanoseconds. -/
def roundUp (tick : Nat) (d : Duration) : Nat := (d.nanos + (tick - 1)) / tick * tick

/-- Seconds as a double, rounded half to even to nanoseconds; none for negative, infinite and too many
(`Duration::try_from_secs_f64`). -/
def ofSeconds? (x : Binary64) : Option Duration :=
  match x.decode? with
  | none => none
  | some (m, e) =>
    if x.negative ∧ m ≠ 0 then none
    else
      let (num, den) := Binary64.scale m e
      if UInt64.size ≤ num / den then none
      else some (ofNanos (roundHalfEven (num * 1000000000) den))

/-- The duration as a double, in seconds (`Duration::as_secs_f64`): whole seconds plus the rest, each rounded. -/
def seconds (d : Duration) : Binary64 :=
  let rest := (Binary64.ofNat (d.nanos % 1000000000)).divAbs (Binary64.ofNat 1000000000)
  (Binary64.ofNat (d.nanos / 1000000000)).addAbs rest

theorem nanos_ofNanos (n : Nat) : (ofNanos n).nanos = min n maxNanos := rfl

theorem nanos_zero : zero.nanos = 0 := rfl

theorem ext_nanos {a b : Duration} (h : a.nanos = b.nanos) : a = b := by
  cases a; cases b; simp_all

theorem nanos_least (a b : Duration) : (least a b).nanos = min a.nanos b.nanos := by
  unfold least
  split
  · rename_i h; exact (Nat.min_eq_left h).symm
  · rename_i h; exact (Nat.min_eq_right (Nat.le_of_lt (Nat.lt_of_not_le h))).symm

end Duration

/-- A point in time, in nanoseconds since a start. -/
abbrev Instant := Int

namespace Instant

/-- The first instant that does not exist: the seconds of an instant have 63 bits. -/
def bound : Int := (Int64.maxValue.toInt + 1) * 1000000000

/-- The instant a duration later, if there is one (`Instant::checked_add`). -/
def add? (t : Instant) (d : Duration) : Option Instant :=
  if t + d.nanos < bound then some (t + d.nanos) else none

/-- The time from `earlier` to `later`, none at all if it is not later (`Instant::saturating_duration_since`). -/
def since (later earlier : Instant) : Duration := Duration.ofNanos (later - earlier).toNat

end Instant
end FederatedLedger
