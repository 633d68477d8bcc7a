import FederatedLedger.Proofs.Pool

/-!
# The first or the soonest node

What a pick promises is said here in terms of the health of the nodes: the first one that is out of backoff, on the
way round from the cursor, or, if there is none, the first of those that have the shortest time to wait
(`Rotation.pick_first_or_soonest`). `FirstFrom` counts steps from the cursor, wherever it stands, and knows neither of
the early return nor of the running minimum; both are `Rotation.IsPick` (`IsPick.firstFrom`).
-/

namespace FederatedLedger

/-- Node `i` is the first one with the property, on the way round from the cursor. -/
def FirstFrom (cursor : Nat) (nodes : List Health) (P : Health → Prop) (i : Nat) : Prop :=
  ∃ k < nodes.length, i = (cursor + k) % nodes.length ∧ (∃ h, nodes[i]? = some h ∧ P h) ∧
    ∀ j < k, ∀ h, nodes[(cursor + j) % nodes.length]? = some h → ¬ P h

/-- There is nothing to wait for iff the node is out of backoff. -/
theorem Health.wait_eq_zero_iff {h : Health} {now : Instant} :
    h.wait now = Duration.zero ↔ h.isAvailable now = true := by
  rw [← isZero_wait, Duration.isZero_iff]
  exact ⟨fun hw => by rw [hw, Duration.nanos_zero], fun hz => Duration.ext_nanos hz⟩

namespace Rotation
variable {nodes : List Health} {now : Instant} {cursor i : Nat} {c : Pick} {P : Health → Prop} {h : Health}

/-- What no node nearer to the cursor is, is first at `i`. -/
theorem firstFrom_of_ahead (hi : nodes[i]? = some h) (hP : P h)
    (hnear : ∀ j g, nodes[j]? = some g → ahead nodes.length cursor j < ahead nodes.length cursor i → ¬ P g) :
    FirstFrom cursor nodes P i := by
  have hlt : i < nodes.length := (List.getElem?_eq_some_iff.1 hi).1
  refine ⟨ahead nodes.length cursor i, ahead_lt cursor hlt, ?_, ⟨h, hi, hP⟩, fun j hj g hg => ?_⟩
  · rw [← Nat.mod_add_mod, add_ahead_mod cursor hlt]
  · have hsteps : ahead nodes.length cursor ((cursor + j) % nodes.length) = j := by
      rw [← Nat.mod_add_mod, ahead_add_mod cursor (Nat.lt_trans hj (ahead_lt cursor hlt))]
    exact hnear _ g hg (by rwa [hsteps])

/-- The choice is the first node, on the way round, that waits no longer than any other. -/
theorem IsPick.firstFrom (hc : IsPick (nodes.map (·.wait now)) cursor c) :
    FirstFrom cursor nodes (fun h => h.wait now = c.wait) c.index := by
  have hat := hc.wait_at
  rw [List.getElem?_map, Option.map_eq_some_iff] at hat
  obtain ⟨h, hi, hwait⟩ := hat
  refine firstFrom_of_ahead hi hwait fun j g hg hlt heq => ?_
  have hless := hc.first j (g.wait now) (by rw [List.getElem?_map, hg]; rfl) (by rwa [List.length_map])
  rw [heq] at hless
  exact Nat.lt_irrefl _ hless

/-- Where a node is out of backoff, nothing is waited for. -/
theorem IsPick.wait_of_available (hc : IsPick (nodes.map (·.wait now)) cursor c)
    (hsome : ∃ h ∈ nodes, h.isAvailable now = true) : c.wait = Duration.zero := by
  obtain ⟨h, hmem, hfree⟩ := hsome
  have hle := hc.least _ (List.mem_map_of_mem hmem)
  rw [Health.wait_eq_zero_iff.2 hfree, Duration.le_iff, Duration.nanos_zero] at hle
  exact Duration.ext_nanos (Nat.le_zero.1 hle)

/-- **The choice.** Whatever the health of the nodes, and wherever the cursor stands, a node is chosen. If some node is
out of backoff, it is the first such one on the way round from the cursor, and there is nothing to wait for. Otherwise
the wait is the shortest of all, and the node the first one that has it. Among several nodes the cursor comes to stand at
the choice. A pool with these nodes hands out that choice, and its members stay as they are. -/
theorem pick_first_or_soonest (hne : nodes ≠ []) (cursor : Nat) (now : Instant) :
    ∃ c cursor', pick (nodes.map (·.wait now)) cursor = (c, cursor') ∧ c.index < nodes.length ∧
      ((∃ h ∈ nodes, h.isAvailable now = true) →
        c.wait = Duration.zero ∧ FirstFrom cursor nodes (fun h => h.isAvailable now = true) c.index) ∧
      ((∀ h ∈ nodes, h.isAvailable now = false) →
        (∃ h ∈ nodes, c.wait = h.wait now) ∧ (∀ h ∈ nodes, c.wait ≤ h.wait now) ∧
        FirstFrom cursor nodes (fun h => h.wait now = c.wait) c.index) ∧
      (2 ≤ nodes.length → cursor' = c.index) ∧
      ∀ (p : Pool) (d : Deadline), p.members.map Member.health = nodes → p.cursor = cursor →
        (p.get now d).1.index = c.index ∧ (p.get now d).1.wait = c.wait ∧
        (p.get now d).2.cursor = cursor' ∧ (p.get now d).2.members = p.members := by
  have hwaits : nodes.map (·.wait now) ≠ [] := fun h => hne (List.map_eq_nil_iff.1 h)
  have hc := (pick_isPick hwaits cursor).1
  have hcursor := cursor_pick (nodes.map (·.wait now)) cursor
  obtain ⟨c, cursor', hpick⟩ : ∃ c cursor', pick (nodes.map (·.wait now)) cursor = (c, cursor') := ⟨_, _, rfl⟩
  rw [hpick] at hc hcursor
  dsimp only at hc hcursor
  refine ⟨c, cursor', hpick, ?_, fun hsome => ?_, fun _ => ⟨?_, ?_, hc.firstFrom⟩, fun hlen => ?_, ?_⟩
  · have := hc.index_lt
    rwa [List.length_map] at this
  · have hzero := hc.wait_of_available hsome
    have hfirst := hc.firstFrom
    simp only [hzero, Health.wait_eq_zero_iff] at hfirst
    exact ⟨hzero, hfirst⟩
  · obtain ⟨h, hmem, hwait⟩ := List.mem_map.1 (List.mem_of_getElem? hc.wait_at)
    exact ⟨h, hmem, hwait.symm⟩
  · exact fun h hmem => hc.least _ (List.mem_map_of_mem hmem)
  · rwa [List.length_map, if_neg (by omega)] at hcursor
  · rintro p d rfl rfl
    have hget : pick (p.waits now) p.cursor = (c, cursor') := by
      rw [← hpick, List.map_map]
      rfl
    simp only [Pool.get, hget, and_self]

/-- The cursor has gone round twice and stands at the first node again, and no node is out of backoff. The last two are
free at the same time, and sooner than the first; half a second later there is nothing to wait for. -/
theorem pick_first_or_soonest_tie : ∃ nodes : List Health,
    nodes.map Health.nextAvailableAt = [some 900000000, some 500000000, some 500000000] ∧
    pick (nodes.map (·.wait 0)) 6 = (⟨1, Duration.ofMillis 500⟩, 1) ∧
    FirstFrom 6 nodes (fun h => h.wait 0 = Duration.ofMillis 500) 1 ∧
    pick (nodes.map (·.wait 500000000)) 6 = (⟨1, Duration.zero⟩, 1) ∧
    FirstFrom 6 nodes (fun h => h.isAvailable 500000000 = true) 1 := by
  let nodes : List Health := [⟨2, some 900000000⟩, ⟨1, some 500000000⟩, ⟨4, some 500000000⟩]
  have hwait : pick (nodes.map (·.wait 0)) 6 = (⟨1, Duration.ofMillis 500⟩, 1) := by decide +kernel
  have hfree : pick (nodes.map (·.wait 500000000)) 6 = (⟨1, Duration.zero⟩, 1) := by decide +kernel
  obtain ⟨c, cursor', hc, -, -, hsoonest, -⟩ := @pick_first_or_soonest nodes nofun 6 0
  obtain ⟨c', cursor'', hc', -, hfirst, -⟩ := @pick_first_or_soonest nodes nofun 6 500000000
  obtain ⟨rfl, -⟩ := Prod.mk.inj (hwait.symm.trans hc)
  obtain ⟨rfl, -⟩ := Prod.mk.inj (hfree.symm.trans hc')
  exact ⟨nodes, rfl, hwait, (hsoonest (by decide)).2.2, hfree, (hfirst (by decide)).2⟩

end Rotation
end FederatedLedger
