import FederatedLedger.Backoff

/-!
# Health of nodes, and turns

A node that failed is in backoff until an instant, and counts its failures since the last success. The
turn goes round the nodes in order: `Rotation.pick` takes the first node from the cursor on that is out of
backoff, or, if there is none, the one that leaves it soonest.
-/

namespace FederatedLedger

/-- What is known of a node (`NodeHealth`): its failures since the last success, and when it leaves backoff. -/
structure Health where
  retries : Nat
  nextAvailableAt : Option Instant
deriving DecidableEq, Repr

namespace Health

/-- A node that never failed, or whose last attempt went well (`NodeHealth::new`, `NodeHealth::mark_success`). -/
def fresh : Health := ⟨0, none⟩

/-- Whether a node is out of backoff (`NodeHealth::is_available`). -/
def isAvailable (h : Health) (now : Instant) : Bool :=
  match h.nextAvailableAt with
  | none => true
  | some instant => instant ≤ now

/-- The time until a node leaves backoff (`NodeHealth::wait_at`). -/
def wait (h : Health) (now : Instant) : Duration :=
  match h.nextAvailableAt with
  | none => Duration.zero
  | some instant => instant.since now

/-- How long a backoff lasts whose end does not exist (`FAR_FUTURE`): thirty years. -/
def farFuture : Duration := Duration.ofSecs (86400 * 365 * 30)

/-- When a backoff that starts now ends. -/
def backoffEnd (now : Instant) (delay : Duration) : Instant :=
  (now.add? delay).getD ((now.add? farFuture).getD now)

/-- A node after a failure (`NodeHealth::mark_failure`). -/
def failed (h : Health) (now : Instant) (delay : Duration) (maxRetries : Nat) : Health :=
  ⟨min (h.retries + 1) maxRetries, some (backoffEnd now delay)⟩

/-- The milliseconds until a node leaves backoff, as far as 64 bits hold them
(`NodeStatus::backoff_remaining_ms`). -/
def remainingMillis (h : Health) (now : Instant) : Nat := (h.wait now).millisWord.toNat

/-- A node is out of backoff iff nothing is left to wait for. -/
theorem isZero_wait (h : Health) (now : Instant) : (h.wait now).isZero = h.isAvailable now := by
  unfold wait isAvailable
  cases h.nextAvailableAt with
  | none => rfl
  | some instant =>
    have hm : 0 < maxNanos := by decide
    show decide (min (instant - now).toNat maxNanos = 0) = decide (@LE.le Int _ instant now)
    rw [decide_eq_decide]
    omega

end Health

/-- A node that was chosen, and how long to wait for it. -/
structure Pick where
  index : Nat
  wait : Duration
deriving DecidableEq, Repr

namespace Rotation

/-- Goes through places with their waits: the first wait of zero wins, else the first of the shortest.
`best` is the best place so far. -/
def scan (best : Option Pick) : List Pick → Option Pick
  | [] => best
  | p :: rest =>
    if p.wait.isZero then some p
    else scan (if best.all fun b => p.wait < b.wait then some p else best) rest

/-- The places from `cursor` on, once around. -/
def circle (cursor length : Nat) : List Nat :=
  (List.range length).map fun step => (cursor + step) % length

/-- Chooses among nodes with these waits (`RoundRobinPicker::pick`). Gives the choice and the new cursor. -/
def pick (waits : List Duration) (cursor : Nat) : Pick × Nat :=
  match waits with
  | [] => (⟨0, Duration.zero⟩, cursor)
  | [w] => (⟨0, w⟩, cursor)
  | _ =>
    let start := cursor % waits.length
    let places := (circle start waits.length).map fun i => ⟨i, waits.getD i Duration.zero⟩
    let choice := (scan none places).getD ⟨start, Duration.zero⟩
    (choice, choice.index)

/-- Moves the turn on by one of `length` nodes (`RoundRobinPicker::advance`). -/
def advance (length cursor : Nat) : Nat :=
  if length = 0 then cursor else (cursor + 1) % length

theorem advance_lt {length : Nat} (cursor : Nat) (h : length ≠ 0) : advance length cursor < length := by
  simp only [advance, h, if_false]
  exact Nat.mod_lt _ (Nat.pos_of_ne_zero h)

end Rotation
end FederatedLedger
