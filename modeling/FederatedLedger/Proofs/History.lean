import FederatedLedger.Proofs.Pool

/-!
# Histories of a pool

Callers ask a pool for nodes and report on the handles that they got, in any order: late, more than once, or
never. `Pool.after` is the pool after such a history, and `Pool.Orderly` says that nobody reports on a handle
that the pool did not give out. An operation changes the health of at most the node that it reports on
(`getElem?_apply`); the connections of the nodes and the backoff stay, and the cursor stays on the circle.
-/

namespace FederatedLedger

/-- What a caller reports of a node that it used. -/
inductive Feedback where
  | answered
  /-- The node failed: when that was noted, the random number for its delay, and the cap. -/
  | failed (now : Instant) (draw : Nat) (cap : Duration)

/-- What a caller does to a pool. -/
inductive PoolOp where
  | get (now : Instant) (deadline : Deadline)
  | report (handle : Handle) (feedback : Feedback)

/-- The node whose health the operation concerns. -/
def PoolOp.subject? : PoolOp → Option Nat
  | .get _ _ => none
  | .report h _ => some h.index

/-- When the operation puts a node into backoff. -/
def PoolOp.failedAt? : PoolOp → Option Instant
  | .report _ (.failed now _ _) => some now
  | _ => none

/-- The health of a node after a report on it. -/
def Health.told (b : Backoff) (h : Health) : Feedback → Health
  | .answered => fresh
  | .failed now draw cap => h.charged b now draw cap

namespace Pool

/-- The pool after a report on the node at an index. -/
def tell (p : Pool) (index : Nat) : Feedback → Pool
  | .answered => p.succeeded index
  | .failed now draw cap => (p.failed now draw index cap).2

/-- The pool after an operation. -/
def apply (p : Pool) : PoolOp → Pool
  | .get now d => (p.get now d).2
  | .report h f => p.tell h.index f

/-- The pool after a history, in which the latest operation stands first. -/
def after (p : Pool) : List PoolOp → Pool
  | [] => p
  | op :: ops => (p.after ops).apply op

/-- The handles that the pool gave out in a history, the latest first. -/
def handed (p : Pool) : List PoolOp → List Handle
  | [] => []
  | .get now d :: ops => ((p.after ops).get now d).1 :: p.handed ops
  | .report _ _ :: ops => p.handed ops

/-- Every report of the history is on a handle that the pool gave out before. -/
def Orderly (p : Pool) : List PoolOp → Prop
  | [] => True
  | .get _ _ :: ops => p.Orderly ops
  | .report h _ :: ops => h ∈ p.handed ops ∧ p.Orderly ops

/-- The pool is what some history made of a new one. -/
def Reachable (p : Pool) : Prop :=
  ∃ connections backoff new ops, ofConnections connections backoff = .ok new ∧ new.Orderly ops ∧ p = new.after ops

variable (p : Pool) (index : Nat) (f : Feedback) (op : PoolOp) (ops : List PoolOp)

/-! ## One report -/

theorem members_tell : (p.tell index f).members =
    p.members.modify index fun m => { m with health := m.health.told p.backoff f } := by
  cases f with
  | answered => exact p.members_succeeded index
  | failed now draw cap => exact p.members_failed now draw index cap

@[simp] theorem backoff_tell : (p.tell index f).backoff = p.backoff := by
  cases f with
  | answered => rfl
  | failed now draw cap => exact p.backoff_failed now draw index cap

@[simp] theorem size_tell : (p.tell index f).size = p.size := by
  cases f with
  | answered => exact p.size_note _ _
  | failed now draw cap => exact p.size_failed now draw index cap

theorem cursor_tell : (p.tell index f).cursor = Rotation.advance p.size p.cursor := by
  cases f with
  | answered => rfl
  | failed now draw cap => exact p.cursor_failed now draw index cap

@[simp] theorem connections_tell :
    (p.tell index f).members.map Member.connection = p.members.map Member.connection := by
  rw [members_tell]
  exact map_connection_modify _ _ _ fun _ => rfl

/-! ## One operation -/

@[simp] theorem backoff_apply : (p.apply op).backoff = p.backoff := by
  cases op with
  | get now d => rfl
  | report h f => exact p.backoff_tell _ f

@[simp] theorem connections_apply :
    (p.apply op).members.map Member.connection = p.members.map Member.connection := by
  cases op with
  | get now d => rfl
  | report h f => exact p.connections_tell _ f

@[simp] theorem size_apply : (p.apply op).size = p.size := by
  cases op with
  | get now d => rfl
  | report h f => exact p.size_tell _ f

/-- A node that an operation does not report on stays as it is. -/
theorem getElem?_apply {i : Nat} (h : op.subject? ≠ some i) : (p.apply op).members[i]? = p.members[i]? := by
  cases op with
  | get now d => rfl
  | report handle f =>
    have hne : handle.index ≠ i := fun he => h (congrArg some he)
    simp only [apply, members_tell, List.getElem?_modify_ne _ _ hne]

/-- The node that a report is on gets the health that the report makes of it. -/
theorem getElem?_report (handle : Handle) : (p.apply (.report handle f)).members[handle.index]? =
    p.members[handle.index]?.map fun m => { m with health := m.health.told p.backoff f } := by
  simp [apply, members_tell]

theorem cursor_apply_lt (h : p.cursor < p.size) : (p.apply op).cursor < p.size := by
  cases op with
  | get now d => exact p.cursor_get_lt now d h
  | report handle f =>
    rw [apply, cursor_tell]
    exact Rotation.advance_lt _ (Nat.ne_of_gt p.size_pos)

/-! ## Histories -/

@[simp] theorem backoff_after : (p.after ops).backoff = p.backoff := by
  induction ops with
  | nil => rfl
  | cons op ops ih => rw [after, backoff_apply, ih]

@[simp] theorem connections_after :
    (p.after ops).members.map Member.connection = p.members.map Member.connection := by
  induction ops with
  | nil => rfl
  | cons op ops ih => rw [after, connections_apply, ih]

@[simp] theorem size_after : (p.after ops).size = p.size := by
  induction ops with
  | nil => rfl
  | cons op ops ih => rw [after, size_apply, ih]

theorem cursor_after_lt (h : p.cursor < p.size) : (p.after ops).cursor < p.size := by
  induction ops with
  | nil => exact h
  | cons op ops ih =>
    have := (p.after ops).cursor_apply_lt op (by rwa [size_after])
    rwa [size_after] at this

/-- A handle that was given out is on a node of the pool. -/
theorem index_lt_of_mem_handed {h : Handle} (hh : h ∈ p.handed ops) : h.index < p.size := by
  induction ops with
  | nil => cases hh
  | cons op ops ih =>
    cases op with
    | report _ _ => exact ih hh
    | get now d =>
      rcases List.mem_cons.1 hh with rfl | hh
      · have := (p.after ops).index_get_lt now d
        rwa [size_after] at this
      · exact ih hh

variable {p}

/-- A new pool has the given connections, and its nodes never failed. -/
theorem members_ofConnections {connections : List Connection} {b : Backoff}
    (h : ofConnections connections b = .ok p) :
    p.members = connections.map (⟨·, Health.fresh⟩) ∧ p.cursor = 0 ∧ p.backoff = b := by
  cases connections with
  | nil => cases h
  | cons c rest => cases h; exact ⟨rfl, rfl, rfl⟩

theorem Reachable.cursor_lt (h : p.Reachable) : p.cursor < p.size := by
  obtain ⟨connections, b, new, ops, hnew, -, rfl⟩ := h
  rw [size_after]
  refine new.cursor_after_lt ops ?_
  rw [(members_ofConnections hnew).2.1]
  exact new.size_pos

end Pool
end FederatedLedger
