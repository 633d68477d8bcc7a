import FederatedLedger.Pool.Rotation
import FederatedLedger.Proofs.Deadline

/-!
# The choice of a node

`scan` stops at the first wait of zero and keeps a running minimum otherwise. Both are one rule: it gives the
first of the least waits (`scan_firstLeast`), since nothing is less than zero. On the circle this makes `pick`
the node with the least wait that comes first from the cursor on (`pick_isPick`); how far a node lies ahead of
the cursor is `ahead`, and `ahead_advance` says how far it still lies ahead after the turn moved on.
-/

namespace FederatedLedger.Rotation

/-! ## Scanning -/

/-- `r` is the first of `ps` with the least wait. -/
def FirstLeast (r : Pick) (ps : List Pick) : Prop :=
  ∃ pre post, ps = pre ++ r :: post ∧ (∀ p ∈ pre, r.wait < p.wait) ∧ ∀ p ∈ post, r.wait ≤ p.wait

theorem firstLeast_head {r : Pick} {ps : List Pick} (h : ∀ p ∈ ps, r.wait ≤ p.wait) : FirstLeast r (r :: ps) :=
  ⟨[], ps, rfl, by simp, h⟩

theorem FirstLeast.le {r : Pick} {ps : List Pick} (h : FirstLeast r ps) : ∀ p ∈ ps, r.wait ≤ p.wait := by
  obtain ⟨pre, post, rfl, hpre, hpost⟩ := h
  intro p hp
  rcases List.mem_append.1 hp with hp | hp
  · exact Nat.le_of_lt (hpre p hp)
  · rcases List.mem_cons.1 hp with rfl | hp
    · exact Nat.le_refl _
    · exact hpost p hp

/-- A place that is beaten may be put in front. -/
theorem FirstLeast.cons {r p : Pick} {ps : List Pick} (h : FirstLeast r ps) (hp : r.wait < p.wait) :
    FirstLeast r (p :: ps) := by
  obtain ⟨pre, post, rfl, hpre, hpost⟩ := h
  exact ⟨p :: pre, post, rfl, List.forall_mem_cons.2 ⟨hp, hpre⟩, hpost⟩

/-- A place no better than the first may be put behind it. -/
theorem FirstLeast.insert {r b p : Pick} {ps : List Pick} (h : FirstLeast r (b :: ps)) (hp : b.wait ≤ p.wait) :
    FirstLeast r (b :: p :: ps) := by
  obtain ⟨pre, post, he, hpre, hpost⟩ := h
  cases pre with
  | nil =>
    obtain ⟨rfl, rfl⟩ := List.cons.inj he
    exact firstLeast_head (List.forall_mem_cons.2 ⟨hp, hpost⟩)
  | cons a pre =>
    obtain ⟨rfl, rfl⟩ := List.cons.inj he
    obtain ⟨hb, hpre⟩ := List.forall_mem_cons.1 hpre
    refine ⟨b :: p :: pre, post, rfl, ?_, hpost⟩
    exact List.forall_mem_cons.2 ⟨hb, List.forall_mem_cons.2 ⟨Nat.lt_of_lt_of_le hb hp, hpre⟩⟩

theorem zero_le_wait {p : Pick} (h : p.wait.isZero = true) (q : Pick) : p.wait ≤ q.wait := by
  rw [Duration.le_iff, (Duration.isZero_iff _).1 h]
  exact Nat.zero_le _

theorem scan_some : ∀ (ps : List Pick) (b : Pick), b.wait.isZero = false →
    ∃ r, scan (some b) ps = some r ∧ FirstLeast r (b :: ps)
  | [], b, _ => ⟨b, rfl, firstLeast_head (by simp)⟩
  | p :: ps, b, hb => by
    simp only [scan, Option.all_some, decide_eq_true_eq]
    by_cases hp : p.wait.isZero
    · -- a wait of zero beats every other, so the early end changes nothing
      rw [if_pos hp]
      have hpb : p.wait < b.wait := by
        rw [Duration.lt_iff, (Duration.isZero_iff _).1 hp]
        exact (Duration.isZero_eq_false_iff _).1 hb
      exact ⟨p, rfl, (firstLeast_head fun q _ => zero_le_wait hp q).cons hpb⟩
    · rw [if_neg hp]
      by_cases hlt : p.wait < b.wait
      · rw [if_pos hlt]
        obtain ⟨r, hr, hfirst⟩ := scan_some ps p (by simpa using hp)
        exact ⟨r, hr, hfirst.cons (Nat.lt_of_le_of_lt (hfirst.le p (by simp)) hlt)⟩
      · rw [if_neg hlt]
        obtain ⟨r, hr, hfirst⟩ := scan_some ps b hb
        exact ⟨r, hr, hfirst.insert (Nat.le_of_not_lt hlt)⟩

theorem scan_firstLeast {ps : List Pick} (h : ps ≠ []) : ∃ r, scan none ps = some r ∧ FirstLeast r ps := by
  cases ps with
  | nil => exact absurd rfl h
  | cons p ps =>
    simp only [scan, Option.all_none, if_true]
    by_cases hp : p.wait.isZero
    · rw [if_pos hp]
      exact ⟨p, rfl, firstLeast_head fun q _ => zero_le_wait hp q⟩
    · rw [if_neg hp]
      exact scan_some ps p (by simpa using hp)

/-! ## Places on the circle -/

/-- How many steps the node at `i` lies ahead of the cursor, among `n` nodes. -/
def ahead (n cursor i : Nat) : Nat := if cursor % n ≤ i then i - cursor % n else i + n - cursor % n

theorem ahead_lt {n i : Nat} (cursor : Nat) (hi : i < n) : ahead n cursor i < n := by
  have := Nat.mod_lt cursor (Nat.zero_lt_of_lt hi)
  unfold ahead; split <;> omega

theorem add_ahead_mod {n i : Nat} (cursor : Nat) (hi : i < n) : (cursor % n + ahead n cursor i) % n = i := by
  have := Nat.mod_lt cursor (Nat.zero_lt_of_lt hi)
  unfold ahead; split
  · rw [Nat.add_sub_cancel' (by omega), Nat.mod_eq_of_lt hi]
  · rw [show cursor % n + (i + n - cursor % n) = i + n by omega, Nat.add_mod_right, Nat.mod_eq_of_lt hi]

theorem ahead_add_mod {n k : Nat} (cursor : Nat) (hk : k < n) : ahead n cursor ((cursor % n + k) % n) = k := by
  have hc := Nat.mod_lt cursor (Nat.zero_lt_of_lt hk)
  unfold ahead
  generalize cursor % n = c at hc ⊢
  by_cases h : c + k < n
  · rw [Nat.mod_eq_of_lt h, if_pos (by omega)]; omega
  · rw [Nat.mod_eq_sub_mod (by omega), Nat.mod_eq_of_lt (by omega), if_neg (by omega)]; omega

theorem ahead_inj {n cursor i j : Nat} (hi : i < n) (hj : j < n) (h : ahead n cursor i = ahead n cursor j) :
    i = j := by
  rw [← add_ahead_mod cursor hi, h, add_ahead_mod cursor hj]

/-- Once the node at `i` had its turn, a node behind it has come nearer by all steps up to `i` and one. -/
theorem ahead_advance {n cursor i j : Nat} (hi : i < n) (hj : j < n) (hlt : ahead n cursor i < ahead n cursor j)
    {c : Nat} (hc : c % n = i) : ahead n (advance n c) j + ahead n cursor i + 1 = ahead n cursor j := by
  have hn : n ≠ 0 := by omega
  have := Nat.mod_lt cursor (Nat.zero_lt_of_lt hi)
  have hadv : advance n c = if i + 1 = n then 0 else i + 1 := by
    simp only [advance, hn, if_false, Nat.add_mod c 1 n, hc]
    split
    · rename_i he; rw [Nat.add_mod_mod, he, Nat.mod_self]
    · rw [Nat.add_mod_mod, Nat.mod_eq_of_lt (by omega)]
  have hmod : advance n c % n = advance n c := Nat.mod_eq_of_lt (advance_lt c hn)
  unfold ahead at hlt ⊢
  rw [hmod, hadv]
  split at hlt <;> split at hlt <;> split <;> split <;> omega

/-! ## Picking -/

/-- `c` is the node that is to be chosen: its wait is the least, and all nodes before it on the way round from
the cursor wait longer. -/
structure IsPick (waits : List Duration) (cursor : Nat) (c : Pick) : Prop where
  wait_at : waits[c.index]? = some c.wait
  least : ∀ d ∈ waits, c.wait ≤ d
  first : ∀ i d, waits[i]? = some d → ahead waits.length cursor i < ahead waits.length cursor c.index → c.wait < d

theorem IsPick.index_lt {waits : List Duration} {cursor : Nat} {c : Pick} (h : IsPick waits cursor c) :
    c.index < waits.length :=
  (List.getElem?_eq_some_iff.1 h.wait_at).1

/-- The first least place of the circle is the node to choose. -/
theorem isPick_of_firstLeast {waits : List Duration} {cursor : Nat} {c : Pick}
    (h : FirstLeast c ((circle (cursor % waits.length) waits.length).map
      fun i => ⟨i, waits.getD i Duration.zero⟩)) : IsPick waits cursor c := by
  have hle := h.le
  obtain ⟨pre, post, he, hpre, -⟩ := h
  -- the place after `k` steps
  have place : ∀ k < waits.length, (pre ++ c :: post)[k]? =
      some ⟨(cursor % waits.length + k) % waits.length,
        waits.getD ((cursor % waits.length + k) % waits.length) Duration.zero⟩ := by
    intro k hk
    rw [← he]
    simp [circle, List.getElem?_range hk]
  have hlen : pre.length < waits.length := by
    have := congrArg List.length he
    simp only [circle, List.length_map, List.length_range, List.length_append, List.length_cons] at this
    omega
  have hc := place _ hlen
  rw [List.getElem?_append_right (Nat.le_refl _), Nat.sub_self, List.getElem?_cons_zero,
    Option.some.injEq] at hc
  have hindex := congrArg Pick.index hc
  have hwait := congrArg Pick.wait hc
  simp only at hindex hwait
  rw [← hindex] at hwait
  have hlt : c.index < waits.length := by rw [hindex]; exact Nat.mod_lt _ (by omega)
  have hsteps : ahead waits.length cursor c.index = pre.length := by rw [hindex, ahead_add_mod _ hlen]
  have getD_at : ∀ {i d}, waits[i]? = some d → waits.getD i Duration.zero = d := fun h => by simp [h]
  refine ⟨?_, ?_, ?_⟩
  · rw [hwait, List.getD_eq_getElem?_getD, List.getElem?_eq_getElem hlt]; rfl
  · intro d hd
    obtain ⟨i, hi⟩ := List.mem_iff_getElem?.1 hd
    have hin := (List.getElem?_eq_some_iff.1 hi).1
    have := place _ (ahead_lt cursor hin)
    rw [add_ahead_mod cursor hin, getD_at hi, ← he] at this
    exact hle _ (List.mem_of_getElem? this)
  · intro i d hi hk
    have hin := (List.getElem?_eq_some_iff.1 hi).1
    rw [hsteps] at hk
    have := place _ (ahead_lt cursor hin)
    rw [add_ahead_mod cursor hin, getD_at hi, List.getElem?_append_left hk] at this
    exact hpre _ (List.mem_of_getElem? this)

theorem pick_single (w : Duration) (cursor : Nat) : IsPick [w] cursor ⟨0, w⟩ :=
  ⟨rfl, by simp [Duration.le_iff], fun i d hi hlt => by simp [ahead, Nat.mod_one] at hi hlt⟩

/-- **The choice.** Whatever the cursor, `pick` takes the first node on the way round with the least wait, and
leaves the cursor at it. -/
theorem pick_isPick {waits : List Duration} (h : waits ≠ []) (cursor : Nat) :
    IsPick waits cursor (pick waits cursor).1 ∧
      (pick waits cursor).2 % waits.length = (pick waits cursor).1.index := by
  match waits, h with
  | [w], _ => exact ⟨pick_single w cursor, by simp [pick, Nat.mod_one]⟩
  | a :: b :: rest, _ =>
    have hne : ((circle (cursor % (a :: b :: rest).length) (a :: b :: rest).length).map
        fun i => (⟨i, (a :: b :: rest).getD i Duration.zero⟩ : Pick)) ≠ [] := by
      simp [circle]
    obtain ⟨r, hr, hfirst⟩ := scan_firstLeast hne
    have hpick : pick (a :: b :: rest) cursor = (r, r.index) := by simp only [pick, hr, Option.getD_some]
    have hisPick := isPick_of_firstLeast hfirst
    rw [hpick]
    exact ⟨hisPick, Nat.mod_eq_of_lt hisPick.index_lt⟩

/-- Among several nodes the cursor comes to stand at the choice; a single one needs no cursor. -/
theorem cursor_pick (waits : List Duration) (cursor : Nat) :
    (pick waits cursor).2 = if waits.length ≤ 1 then cursor else (pick waits cursor).1.index := by
  match waits with
  | [] => rfl
  | [_] => rfl
  | _ :: _ :: _ => simp [pick]

end FederatedLedger.Rotation
