import FederatedLedger.Proofs.History
import Mathlib.Data.List.Nodup

/-!
# Fair turns

A single caller asks for a node and reports on it before it asks again: these are the rounds of a pool. How far
a node lies ahead of the cursor bounds the rounds that it has to wait while it is out of backoff, since no round
passes it over and every round that it does not get brings the turn nearer (`ahead_play_lt`), whatever the other
nodes do. Where all nodes are out of backoff the turn goes round without a gap (`map_index_choices`).
-/

namespace FederatedLedger

/-- The choice of a node, and the report on it. -/
structure Round where
  now : Instant
  deadline : Deadline
  feedback : Feedback

/-- A place comes up once on the way round. -/
theorem Rotation.nodup_circle (cursor length : Nat) : (circle cursor length).Nodup := by
  refine List.Nodup.map_on (fun a ha b hb hab => ?_) List.nodup_range
  have ha := List.mem_range.1 ha
  have hb := List.mem_range.1 hb
  rw [← Nat.mod_add_mod cursor, ← Nat.mod_add_mod cursor length b] at hab
  rw [← ahead_add_mod cursor ha, hab, ahead_add_mod cursor hb]

namespace Pool

/-- The pool after a round: the report is on the handle that was given out just now. -/
def play (p : Pool) (r : Round) : Pool :=
  (p.get r.now r.deadline).2.tell (p.get r.now r.deadline).1.index r.feedback

/-- The handles that are given out in rounds, in order. -/
def choices (p : Pool) : List Round → List Handle
  | [] => []
  | r :: rs => (p.get r.now r.deadline).1 :: (p.play r).choices rs

/-- The node at `j` is out of backoff whenever a round begins. -/
def Serves (j : Nat) (p : Pool) : List Round → Prop
  | [] => True
  | r :: rs => (∃ m, p.members[j]? = some m ∧ m.health.isAvailable r.now = true) ∧ (p.play r).Serves j rs

instance decidableServes (j : Nat) : (p : Pool) → (rs : List Round) → Decidable (p.Serves j rs)
  | _, [] => isTrue trivial
  | p, r :: rs =>
    have : Decidable (∃ m, p.members[j]? = some m ∧ m.health.isAvailable r.now = true) :=
      decidable_of_iff (p.members[j]?.any (·.health.isAvailable r.now) = true) (Option.any_eq_true ..)
    have := decidableServes j (p.play r) rs
    inferInstanceAs (Decidable (_ ∧ _))

variable {p : Pool} {r : Round} {rs : List Round} {j : Nat} {m : Member}

/-! ## One round -/

@[simp] theorem size_play (p : Pool) (r : Round) : (p.play r).size = p.size := by
  rw [play, size_tell, size_get]

theorem connections_play (p : Pool) (r : Round) :
    (p.play r).members.map Member.connection = p.members.map Member.connection := by
  rw [play, connections_tell, members_get]

theorem cursor_play (p : Pool) (r : Round) :
    (p.play r).cursor = Rotation.advance p.size (p.get r.now r.deadline).2.cursor := by
  rw [play, cursor_tell, size_get]

/-- A node that is out of backoff gets the round, or its turn comes nearer. -/
theorem ahead_play_lt (hm : p.members[j]? = some m) (hj : m.health.isAvailable r.now = true)
    (hne : (p.get r.now r.deadline).1.index ≠ j) :
    Rotation.ahead (p.play r).size (p.play r).cursor j < Rotation.ahead p.size p.cursor j := by
  obtain ⟨-, hle⟩ := p.get_of_available r.now r.deadline hm hj
  rw [size_play, cursor_play]
  exact p.ahead_advance_get r.now r.deadline (List.getElem?_eq_some_iff.1 hm).1 hne hle

/-- If the node at the cursor is out of backoff, it is its turn. -/
theorem index_get_of_available (hm : p.members[p.cursor % p.size]? = some m)
    (hj : m.health.isAvailable r.now = true) : (p.get r.now r.deadline).1.index = p.cursor % p.size := by
  have hlt : p.cursor % p.size < p.size := Nat.mod_lt _ p.size_pos
  obtain ⟨-, hle⟩ := p.get_of_available r.now r.deadline hm hj
  refine Rotation.ahead_inj (p.index_get_lt r.now r.deadline) hlt (Nat.le_antisymm hle ?_)
  simp [Rotation.ahead]

/-! ## Many rounds -/

/-- The induction is on the rounds; the steps that the node lies ahead are used up first. -/
theorem exists_mem_choices : ∀ {rs : List Round} {p : Pool}, p.Serves j rs →
    Rotation.ahead p.size p.cursor j < rs.length → ∃ h ∈ p.choices rs, h.index = j ∧
      (p.members.map Member.connection)[j]? = some h.connection ∧ h.wait.isZero = true
  | [], _, _, hlt => absurd hlt (Nat.not_lt_zero _)
  | r :: rs, p, ⟨⟨m, hm, hj⟩, hrest⟩, hlt => by
    by_cases hindex : (p.get r.now r.deadline).1.index = j
    · obtain ⟨m', hm', hconn, -⟩ := p.get_member r.now r.deadline
      rw [hindex] at hm'
      refine ⟨_, List.mem_cons_self, hindex, ?_, (p.get_of_available r.now r.deadline hm hj).1⟩
      rw [List.getElem?_map, hm', hconn]; rfl
    · have hnear := ahead_play_lt hm hj hindex
      rw [List.length_cons] at hlt
      obtain ⟨h, hh, hi, hconn, hzero⟩ := exists_mem_choices hrest (by omega)
      rw [connections_play] at hconn
      exact ⟨h, List.mem_cons_of_mem _ hh, hi, hconn, hzero⟩

/-- With all nodes out of backoff the rounds follow the circle, however many there are. -/
theorem map_index_choices : ∀ {rs : List Round} {p : Pool}, (∀ j < p.size, p.Serves j rs) →
    (p.choices rs).map Handle.index = (List.range rs.length).map fun step => (p.cursor + step) % p.size
  | [], _, _ => rfl
  | r :: rs, p, hall => by
    obtain ⟨⟨m, hm, hj⟩, -⟩ := hall _ (Nat.mod_lt p.cursor p.size_pos)
    have hindex := index_get_of_available hm hj
    have hcursor : (p.play r).cursor % p.size = (p.cursor + 1) % p.size := by
      have hmod := p.cursor_get_mod r.now r.deadline
      rw [cursor_play, Rotation.advance, if_neg (Nat.ne_of_gt p.size_pos), Nat.mod_mod, Nat.add_mod, hmod, hindex,
        Nat.mod_add_mod, Nat.add_mod_mod]
    have hrest := map_index_choices (p := p.play r) fun j hj => (hall j (by rwa [size_play] at hj)).2
    rw [choices, List.map_cons, hindex, hrest, List.length_cons, List.range_succ_eq_map, List.map_cons, List.map_map,
      size_play, Nat.add_zero]
    congr 1
    apply List.map_congr_left
    intro step _
    rw [Nat.add_mod, hcursor, ← Nat.add_mod]
    simp [Nat.add_comm, Nat.add_left_comm]

end Pool

/-- **Fair turns.** Take a pool in any state, and as many rounds as it has nodes. A node that is out of backoff
at the start of each of them is handed out in one of them, with nothing to wait for, whatever is reported of the
others. If all nodes are, the rounds hand out each of them once, in their order from the cursor on. -/
theorem rounds_are_fair (p : Pool) {rs : List Round} (hlen : rs.length = p.size) :
    (∀ j, p.Serves j rs → ∃ h ∈ p.choices rs, h.index = j ∧
      (p.members.map Member.connection)[j]? = some h.connection ∧ h.wait.isZero = true) ∧
    ((∀ j < p.size, p.Serves j rs) →
      (p.choices rs).map Handle.index = Rotation.circle p.cursor p.size ∧
      ((p.choices rs).map Handle.index).Nodup) := by
  constructor
  · intro j hserves
    have hj : j < p.size := by
      cases rs with
      | nil => exact absurd hlen (Nat.ne_of_lt p.size_pos)
      | cons r rs => obtain ⟨⟨m, hm, -⟩, -⟩ := hserves; exact (List.getElem?_eq_some_iff.1 hm).1
    exact Pool.exists_mem_choices hserves (Nat.lt_of_lt_of_eq (Rotation.ahead_lt p.cursor hj) hlen.symm)
  · intro hall
    have hcircle : (p.choices rs).map Handle.index = Rotation.circle p.cursor p.size := by
      rw [Pool.map_index_choices hall, hlen]; rfl
    exact ⟨hcircle, hcircle ▸ Rotation.nodup_circle _ _⟩

/-- Three nodes, and the turn is at the last. If it fails and then the first, the second still gets the third
round. If all answer, the rounds go on round the circle. -/
theorem rounds_are_fair_three : ∃ p : Pool, p.size = 3 ∧ p.cursor = 2 ∧
    (∃ h ∈ p.choices [⟨0, ⟨0, none⟩, .failed 1 0 (Duration.ofSecs 1)⟩, ⟨2, ⟨0, none⟩, .failed 3 0 (Duration.ofSecs 1)⟩,
      ⟨4, ⟨0, none⟩, .answered⟩], h.index = 1 ∧ h.wait.isZero = true) ∧
    (p.choices [⟨0, ⟨0, none⟩, .answered⟩, ⟨2, ⟨0, none⟩, .answered⟩, ⟨4, ⟨0, none⟩, .answered⟩]).map Handle.index =
      [2, 0, 1] := by
  let p : Pool := ⟨[⟨⟨"http://a:9984", []⟩, Health.fresh⟩, ⟨⟨"http://b:9984", []⟩, Health.fresh⟩,
    ⟨⟨"http://c:9984", []⟩, Health.fresh⟩], List.cons_ne_nil _ _, 2, Backoff.standard⟩
  let failing : List Round := [⟨0, ⟨0, none⟩, .failed 1 0 (Duration.ofSecs 1)⟩,
    ⟨2, ⟨0, none⟩, .failed 3 0 (Duration.ofSecs 1)⟩, ⟨4, ⟨0, none⟩, .answered⟩]
  let answering : List Round := [⟨0, ⟨0, none⟩, .answered⟩, ⟨2, ⟨0, none⟩, .answered⟩, ⟨4, ⟨0, none⟩, .answered⟩]
  refine ⟨p, rfl, rfl, ?_, ?_⟩
  · obtain ⟨h, hh, hindex, -, hzero⟩ := (@rounds_are_fair p failing rfl).1 1 (by decide +kernel)
    exact ⟨h, hh, hindex, hzero⟩
  · obtain ⟨hcircle, -⟩ := (@rounds_are_fair p answering rfl).2 (by decide +kernel)
    exact hcircle.trans (by decide)

end FederatedLedger
