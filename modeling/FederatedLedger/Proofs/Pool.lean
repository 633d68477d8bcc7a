import FederatedLedger.Pool.Basic
import FederatedLedger.Proofs.Rotation

/-!
# What the operations of a pool do

The state of a pool is its members and its cursor. `get` moves the cursor only and hands out the node of
`Rotation.IsPick`; `succeeded` and `failed` change the health of one member and move the cursor on by one.
-/

namespace FederatedLedger

/-- The health of a node after a failure, with the delay that its backoff gives. -/
def Health.charged (h : Health) (b : Backoff) (now : Instant) (draw : Nat) (cap : Duration) : Health :=
  h.failed now (b.delay draw h.retries cap) b.maxRetries

/-- Backoff does not come back by itself. -/
theorem Health.isAvailable_mono {h : Health} {now later : Instant} (hl : now ≤ later)
    (ha : h.isAvailable now = true) : h.isAvailable later = true := by
  cases hat : h.nextAvailableAt with
  | none => simp [isAvailable, hat]
  | some free =>
    simp only [isAvailable, hat, decide_eq_true_eq] at ha ⊢
    exact Int.le_trans ha hl

/-- A backoff lasts no longer than its delay, or thirty years. -/
theorem Health.backoffEnd_le_max (t : Instant) (delay : Duration) :
    backoffEnd t delay ≤ t + max delay.nanos farFuture.nanos := by
  have hsum {d : Duration} {e : Instant} (he : t.add? d = some e) : e = t + d.nanos :=
    (Instant.add?_eq_some_iff.1 he).2.symm
  unfold backoffEnd
  cases hdelay : t.add? delay with
  | some e =>
    have := hsum hdelay
    grind
  | none =>
    cases hfar : t.add? farFuture with
    | some e =>
      have := hsum hfar
      grind
    | none => grind

namespace Pool
variable (p : Pool) (now : Instant) (d : Deadline)

theorem size_pos : 0 < p.size := List.length_pos_iff.2 p.members_ne

/-! ## Choosing a node -/

theorem length_waits : (p.waits now).length = p.size := by simp [waits, size]

theorem waits_ne_nil : p.waits now ≠ [] := by
  have := p.size_pos
  rw [← length_waits p now] at this
  exact List.length_pos_iff.1 this

theorem getElem?_waits {i : Nat} {m : Member} (h : p.members[i]? = some m) :
    (p.waits now)[i]? = some (m.health.wait now) := by
  simp [waits, h]

@[simp] theorem members_get : (p.get now d).2.members = p.members := rfl
@[simp] theorem backoff_get : (p.get now d).2.backoff = p.backoff := rfl
@[simp] theorem size_get : (p.get now d).2.size = p.size := rfl

theorem exceeds_get : (p.get now d).1.exceeds = d.wouldExpire now (p.get now d).1.wait := rfl

theorem isPick_get : Rotation.IsPick (p.waits now) p.cursor ⟨(p.get now d).1.index, (p.get now d).1.wait⟩ :=
  (Rotation.pick_isPick (p.waits_ne_nil now) p.cursor).1

theorem cursor_get_mod : (p.get now d).2.cursor % p.size = (p.get now d).1.index := by
  rw [← length_waits p now]
  exact (Rotation.pick_isPick (p.waits_ne_nil now) p.cursor).2

/-- The cursor moves to the node that is handed out, if there is more than one. -/
theorem cursor_get : (p.get now d).2.cursor = if p.size ≤ 1 then p.cursor else (p.get now d).1.index := by
  rw [← length_waits p now]
  exact Rotation.cursor_pick (p.waits now) p.cursor

/-- The handle is that of a member, with its connection and its wait. -/
theorem get_member : ∃ m, p.members[(p.get now d).1.index]? = some m ∧ (p.get now d).1.connection = m.connection ∧
    (p.get now d).1.wait = m.health.wait now := by
  have hwait := (p.isPick_get now d).wait_at
  simp only [waits, List.getElem?_map, Option.map_eq_some_iff] at hwait
  obtain ⟨m, hm, hw⟩ := hwait
  refine ⟨m, hm, ?_, hw.symm⟩
  change (p.memberAt (p.get now d).1.index).connection = m.connection
  simp [memberAt, hm]

theorem index_get_lt : (p.get now d).1.index < p.size := by
  rw [← length_waits p now]
  exact (p.isPick_get now d).index_lt

theorem cursor_get_lt (h : p.cursor < p.size) : (p.get now d).2.cursor < p.size := by
  rw [cursor_get]
  split
  · exact h
  · exact p.index_get_lt now d

/-- No member could be used sooner than the one that is handed out. -/
theorem wait_get_le {m : Member} (hm : m ∈ p.members) : (p.get now d).1.wait ≤ m.health.wait now :=
  (p.isPick_get now d).least _ (List.mem_map.2 ⟨m, hm, rfl⟩)

/-- If a member is out of backoff, then so is the one that is handed out, and it comes no later. -/
theorem get_of_available {j : Nat} {m : Member} (hm : p.members[j]? = some m)
    (hj : m.health.isAvailable now = true) :
    (p.get now d).1.wait.isZero = true ∧
      Rotation.ahead p.size p.cursor (p.get now d).1.index ≤ Rotation.ahead p.size p.cursor j := by
  have hzero : (m.health.wait now).nanos = 0 := by
    rwa [← Duration.isZero_iff, Health.isZero_wait]
  have hle := p.wait_get_le now d (List.mem_of_getElem? hm)
  rw [Duration.le_iff, hzero] at hle
  refine ⟨(Duration.isZero_iff _).2 (Nat.le_zero.1 hle), Nat.le_of_not_lt fun hlt => ?_⟩
  rw [← length_waits p now] at hlt
  have := (p.isPick_get now d).first j _ (getElem?_waits p now hm) hlt
  rw [Duration.lt_iff, hzero] at this
  exact Nat.not_lt_zero _ this

/-- The cursor stays where it is iff no node can be used sooner than the one there. -/
theorem cursor_get_eq_iff (h : p.cursor < p.size) : (p.get now d).2.cursor = p.cursor ↔
    ∀ m ∈ p.members, (p.memberAt p.cursor).health.wait now ≤ m.health.wait now := by
  obtain ⟨m, hm, -, hwait⟩ := p.get_member now d
  have hat : p.members[p.cursor]? = some (p.memberAt p.cursor) := by
    simp [memberAt, List.getElem?_eq_getElem (show p.cursor < p.members.length from h)]
  constructor
  · intro heq
    have hindex : (p.get now d).1.index = p.cursor := by
      rw [← p.cursor_get_mod now d, heq, Nat.mod_eq_of_lt h]
    rw [hindex, hat] at hm
    rw [Option.some.inj hm, ← hwait]
    exact fun m hm => p.wait_get_le now d hm
  · intro hle
    have hindex : (p.get now d).1.index = p.cursor := by
      have hnear : Rotation.ahead p.size p.cursor (p.get now d).1.index ≤ Rotation.ahead p.size p.cursor p.cursor := by
        refine Nat.le_of_not_lt fun hlt => ?_
        rw [← length_waits p now] at hlt
        have hless := (p.isPick_get now d).first _ _ (getElem?_waits p now hat) hlt
        have := hle m (List.mem_of_getElem? hm)
        rw [← hwait] at this
        exact absurd hless (Nat.not_lt_of_le this)
      refine Rotation.ahead_inj (p.index_get_lt now d) h (Nat.le_antisymm hnear ?_)
      simp [Rotation.ahead, Nat.mod_eq_of_lt h]
    rw [cursor_get, hindex, ite_self]

/-- Once the node that is handed out had its turn, a node behind it lies nearer to the cursor. -/
theorem ahead_advance_get {j : Nat} (hj : j < p.size) (hne : (p.get now d).1.index ≠ j)
    (hle : Rotation.ahead p.size p.cursor (p.get now d).1.index ≤ Rotation.ahead p.size p.cursor j) :
    Rotation.ahead p.size (Rotation.advance p.size (p.get now d).2.cursor) j < Rotation.ahead p.size p.cursor j := by
  have hindex := p.index_get_lt now d
  have hlt := Nat.lt_of_le_of_ne hle fun h => hne (Rotation.ahead_inj hindex hj h)
  have := Rotation.ahead_advance hindex hj hlt (p.cursor_get_mod now d)
  omega

/-! ## Taking note -/

/-- A change that leaves the connection of a member leaves all connections. -/
theorem map_connection_modify (ms : List Member) (index : Nat) (f : Member → Member)
    (hf : ∀ m, (f m).connection = m.connection) :
    (ms.modify index f).map Member.connection = ms.map Member.connection := by
  apply List.ext_getElem?
  intro i
  simp only [List.getElem?_map, List.getElem?_modify]
  cases ms[i]? with
  | none => simp
  | some m => by_cases hi : index = i <;> simp [hi, hf]

variable (draw index : Nat) (cap : Duration)

@[simp] theorem backoff_succeeded : (p.succeeded index).backoff = p.backoff := rfl

theorem members_succeeded :
    (p.succeeded index).members = p.members.modify index fun m => { m with health := Health.fresh } := rfl

/-- A failure is noted for one index, and charges the member there. -/
theorem failed_eq : ∃ f, (p.failed now draw index cap).2 = p.note index f ∧
    ∀ m, p.members[index]? = some m → f m.health = m.health.charged p.backoff now draw cap := by
  unfold failed
  split
  · rename_i hnone
    exact ⟨id, rfl, fun m hm => by rw [hnone] at hm; cases hm⟩
  · rename_i m hm
    refine ⟨fun _ => m.health.charged p.backoff now draw cap, rfl, fun m' hm' => ?_⟩
    rw [hm] at hm'; cases hm'; rfl

@[simp] theorem backoff_failed : (p.failed now draw index cap).2.backoff = p.backoff := by
  obtain ⟨f, h, -⟩ := p.failed_eq now draw index cap
  rw [h]; rfl

@[simp] theorem size_failed : (p.failed now draw index cap).2.size = p.size := by
  obtain ⟨f, h, -⟩ := p.failed_eq now draw index cap
  rw [h, size_note]

theorem cursor_failed : (p.failed now draw index cap).2.cursor = Rotation.advance p.size p.cursor := by
  obtain ⟨f, h, -⟩ := p.failed_eq now draw index cap
  rw [h]; rfl

theorem members_failed : (p.failed now draw index cap).2.members =
    p.members.modify index fun m => { m with health := m.health.charged p.backoff now draw cap } := by
  obtain ⟨f, h, hf⟩ := p.failed_eq now draw index cap
  rw [h, note]
  apply List.ext_getElem?
  intro k
  simp only [List.getElem?_modify]
  by_cases hk : index = k
  · subst hk
    cases hm : p.members[index]? with
    | none => simp
    | some m => simp [hf m hm]
  · simp [hk]

end Pool
end FederatedLedger
