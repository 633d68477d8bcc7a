import FederatedLedger.Connection
import FederatedLedger.Pool.Rotation

/-!
# The pool of nodes

A pool has at least one node, and keeps the health of each. `Pool.get` chooses the node for an attempt,
`Pool.succeeded` and `Pool.failed` take note of how it went. Either moves the turn on; the turn also moves to
the node that is chosen.
-/

namespace FederatedLedger

/-- A node of a pool. -/
structure Member where
  connection : Connection
  health : Health
deriving Repr

/-- The nodes of a federation, in order. -/
structure Pool where
  members : List Member
  members_ne : members ≠ []
  /-- Where the next choice begins. -/
  cursor : Nat
  backoff : Backoff

/-- A node that was chosen for an attempt (`PooledConnection`). -/
structure Handle where
  index : Nat
  connection : Connection
  /-- How long to wait before using the node. -/
  wait : Duration
  /-- Whether the wait reaches the deadline. -/
  exceeds : Bool

/-- What a failure led to: the delay that was applied, and the failures in a row of the node, if the pool
has it. -/
structure Penalty where
  delay : Duration
  retries : Option Nat

namespace Pool

/-- A pool of nodes that never failed (`Pool::new`). -/
def ofConnections (connections : List Connection) (backoff : Backoff) : Except TransportError Pool :=
  match connections with
  | [] => .error .noNodes
  | c :: rest => .ok {
      members := ⟨c, Health.fresh⟩ :: rest.map (⟨·, Health.fresh⟩)
      members_ne := List.cons_ne_nil _ _
      cursor := 0
      backoff }

/-- Connects to all nodes, in order (`Pool::from_nodes`). -/
def ofNodes (nodes : List Node) (backoff : Backoff) : Except TransportError Pool := do
  let connections ← (nodes.mapM Connection.toNode).mapError .request
  ofConnections connections backoff

def size (p : Pool) : Nat := p.members.length

/-- The time until each node leaves backoff. -/
def waits (p : Pool) (now : Instant) : List Duration := p.members.map fun m => m.health.wait now

/-- The node at an index, or the first if the pool has none there. -/
def memberAt (p : Pool) (index : Nat) : Member :=
  p.members.getD index (p.members.head p.members_ne)

/-- Chooses the node for the next attempt of a call with this deadline (`Pool::get_connection_at`). -/
def get (p : Pool) (now : Instant) (deadline : Deadline) : Handle × Pool :=
  let (pick, cursor) := Rotation.pick (p.waits now) p.cursor
  ({ index := pick.index
     connection := (p.memberAt pick.index).connection
     wait := pick.wait
     exceeds := deadline.wouldExpire now pick.wait },
   { p with cursor })

theorem modify_ne {ms : List Member} (h : ms ≠ []) (index : Nat) (f : Member → Member) :
    ms.modify index f ≠ [] := by
  rw [← List.length_pos_iff, List.length_modify]
  exact List.length_pos_iff.2 h

/-- Changes the health of a node, if the pool has it, and moves the turn on. -/
def note (p : Pool) (index : Nat) (f : Health → Health) : Pool :=
  { p with
    members := p.members.modify index fun m => { m with health := f m.health }
    members_ne := modify_ne p.members_ne _ _
    cursor := Rotation.advance p.size p.cursor }

/-- Takes note that a node answered (`Pool::report_success`). -/
def succeeded (p : Pool) (index : Nat) : Pool := p.note index fun _ => Health.fresh

/-- Takes note that a node failed, and leaves it alone for a while, at most as long as `cap`
(`Pool::report_failure_at`). -/
def failed (p : Pool) (now : Instant) (draw index : Nat) (cap : Duration) : Penalty × Pool :=
  match p.members[index]? with
  | none => (⟨Duration.zero, none⟩, p.note index id)
  | some m =>
    let delay := p.backoff.delay draw m.health.retries cap
    let health := m.health.failed now delay p.backoff.maxRetries
    (⟨delay, some health.retries⟩, p.note index fun _ => health)

/-- The nodes with their failures in a row and the milliseconds until they leave backoff (`Pool::snapshot`). -/
def snapshot (p : Pool) (now : Instant) : List (String × Nat × Nat) :=
  p.members.map fun m => (m.connection.endpoint, m.health.retries, m.health.remainingMillis now)

theorem size_note (p : Pool) (index : Nat) (f : Health → Health) : (p.note index f).size = p.size := by
  simp [note, size]

end Pool
end FederatedLedger
