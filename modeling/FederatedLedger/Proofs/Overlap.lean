import FederatedLedger.Proofs.Fairness

/-!
# Overlapping calls

Several callers share a pool. Each opens a call by asking for a node, and closes it by reporting that the node
answered; `Traffic.Stretch` is what may happen of this while at most `c` calls are open and all nodes are out of
backoff. To ask leaves the turn where it is, and a report moves it on by one from wherever it stands, so the turn
passes over a node if no one asks between two reports. There are at most `c` reports without a question between
them: of any `c` neighbours on the circle one is handed out (`Stretch.completed_lt`). There is no more to say, since
two calls that overlap at the right moments are enough to pass over the same node for ever (`exists_starving`).
-/

namespace FederatedLedger

/-- A call that has a node and has not reported on it yet. -/
structure OpenCall where
  handle : Handle
  /-- Whether the call was opened in the stretch of events that is looked at. -/
  inside : Bool

/-- A pool and the calls that are open on it. -/
structure Traffic where
  pool : Pool
  calls : List OpenCall

/-- All nodes are out of backoff. -/
def Pool.AllAvailable (p : Pool) (now : Instant) : Prop := ∀ m ∈ p.members, m.health.isAvailable now = true

instance (p : Pool) (now : Instant) : Decidable (p.AllAvailable now) :=
  inferInstanceAs (Decidable (∀ m ∈ p.members, m.health.isAvailable now = true))

namespace Traffic

/-- Somebody asks for a node. -/
def opened (s : Traffic) (now : Instant) (d : Deadline) : Traffic :=
  ⟨s.pool.apply (.get now d), ⟨(s.pool.get now d).1, true⟩ :: s.calls⟩

/-- The call at this place among the open ones is over: its node answered. -/
def closed (s : Traffic) (place : Nat) (call : OpenCall) : Traffic :=
  ⟨s.pool.apply (.report call.handle .answered), s.calls.eraseIdx place⟩

/-- What may happen from `s` on while at most `c` calls are open and all nodes are out of backoff: the handles that
are given out, in order, and how many calls are both opened and closed in the meantime. -/
inductive Stretch (c : Nat) : Traffic → List Handle → Nat → Prop
  | done {s : Traffic} : Stretch c s [] 0
  | opens {s : Traffic} {now : Instant} {d : Deadline} {hs : List Handle} {k : Nat} (room : s.calls.length < c)
      (available : s.pool.AllAvailable now) (rest : Stretch c (s.opened now d) hs k) :
      Stretch c s ((s.pool.get now d).1 :: hs) k
  | closes {s : Traffic} {place : Nat} {call : OpenCall} {hs : List Handle} {k : Nat} (within : s.calls.length ≤ c)
      (isOpen : s.calls[place]? = some call) (rest : Stretch c (s.closed place call) hs k) :
      Stretch c s hs (k + call.inside.toNat)

/-- The node at which the turn stands. -/
def turn (s : Traffic) : Nat := s.pool.cursor % s.pool.size

variable {s : Traffic} {c n : Nat} {now : Instant} {d : Deadline} {place : Nat} {call : OpenCall}

theorem turn_lt (s : Traffic) : s.turn < s.pool.size := Nat.mod_lt _ s.pool.size_pos

@[simp] theorem size_opened : (s.opened now d).pool.size = s.pool.size := s.pool.size_apply _

@[simp] theorem size_closed (s : Traffic) (place : Nat) (call : OpenCall) :
    (s.closed place call).pool.size = s.pool.size :=
  s.pool.size_apply _

/-- Where all nodes can be used, the one at the turn is handed out. -/
theorem index_get (h : s.pool.AllAvailable now) : (s.pool.get now d).1.index = s.turn := by
  obtain ⟨m, hm⟩ : ∃ m, s.pool.members[s.turn]? = some m := ⟨_, List.getElem?_eq_getElem s.turn_lt⟩
  exact Pool.index_get_of_available (r := ⟨now, d, .answered⟩) hm (h _ (List.mem_of_getElem? hm))

theorem turn_opened (h : s.pool.AllAvailable now) : (s.opened now d).turn = s.turn :=
  (s.pool.cursor_get_mod now d).trans (index_get h)

theorem turn_closed : (s.closed place call).turn = (s.turn + 1) % s.pool.size := by
  have hcursor : (s.closed place call).pool.cursor = (s.pool.cursor + 1) % s.pool.size := by
    rw [closed, Pool.apply, Pool.cursor_tell, Rotation.advance, if_neg (Nat.ne_of_gt s.pool.size_pos)]
  rw [turn, size_closed, hcursor, Nat.mod_mod, turn, Nat.mod_add_mod]

theorem length_closed (h : s.calls[place]? = some call) :
    (s.closed place call).calls.length + 1 = s.calls.length := by
  have hlt := (List.getElem?_eq_some_iff.1 h).1
  rw [closed, List.length_eraseIdx_of_lt hlt]
  omega

/-! ## Arcs of the circle -/

/-- How many steps the turn stands past the node at `x`. -/
def past (s : Traffic) (x : Nat) : Nat := Rotation.ahead s.pool.size x s.turn

variable {x : Nat}

theorem past_lt (s : Traffic) (x : Nat) : s.past x < s.pool.size := Rotation.ahead_lt x s.turn_lt

theorem past_opened (h : s.pool.AllAvailable now) : (s.opened now d).past x = s.past x := by
  rw [past, turn_opened h, size_opened, past]

/-- A report moves the turn on by one step, and at last round to `x`. -/
theorem past_closed (s : Traffic) (place : Nat) (call : OpenCall) (x : Nat) :
    (s.closed place call).past x = if s.past x + 1 < s.pool.size then s.past x + 1 else 0 := by
  have hlt := s.past_lt x
  have hturn : (s.turn + 1) % s.pool.size = (x % s.pool.size + (s.past x + 1)) % s.pool.size := by
    rw [past, ← Nat.add_assoc, Nat.add_mod (_ + _) 1, Rotation.add_ahead_mod x s.turn_lt, Nat.add_mod_mod]
  rw [past, turn_closed, size_closed, hturn]
  split
  · rename_i h
    exact Rotation.ahead_add_mod x h
  · rename_i h
    have hround : s.past x + 1 = s.pool.size := by omega
    rw [hround, Nat.add_mod_right]
    exact Rotation.ahead_add_mod x s.pool.size_pos

/-- None of the handles is on one of the `c` nodes from `x` on. -/
def PassesOver (n c x : Nat) (hs : List Handle) : Prop := ∀ h ∈ hs, ∀ step < c, h.index ≠ (x + step) % n

/-- To pass over an arc, one must not ask while the turn stands there. -/
theorem PassesOver.le_past {hs : List Handle} (hmiss : PassesOver s.pool.size c x ((s.pool.get now d).1 :: hs))
    (h : s.pool.AllAvailable now) : c ≤ s.past x := by
  refine Nat.le_of_not_lt fun hlt => hmiss _ List.mem_cons_self (s.past x) hlt ?_
  rw [index_get h, past, ← Nat.mod_add_mod, Rotation.add_ahead_mod x s.turn_lt]

namespace Stretch
variable {hs : List Handle} {k : Nat}

/-- The turn stands in an arc of `c` nodes from `x` on, with too few open calls to carry it out of there. If no one
asks any more, nothing but these calls can be closed. -/
theorem completed_le_of_trapped (h : s.Stretch c hs k) :
    PassesOver s.pool.size c x hs → s.past x + s.calls.length < c → k ≤ s.calls.length := by
  induction h with
  | done => exact fun _ _ => Nat.zero_le _
  | @opens s now d hs k room available rest ih =>
    intro hmiss hin
    have := hmiss.le_past available
    omega
  | @closes s place call hs k within isOpen rest ih =>
    intro hmiss hin
    have hlen := length_closed isOpen
    have hinside := call.inside.toNat_le
    have hpast := s.past_closed place call x
    have := ih (by rwa [size_closed]) (by rw [hpast]; split <;> omega)
    omega

/-- While the turn goes round to the arc, each step closes one call at most. -/
theorem completed_le_of_outside (h : s.Stretch c hs k) :
    PassesOver s.pool.size c x hs → c ≤ s.past x → k + s.past x < s.pool.size + c := by
  induction h with
  | @done s =>
    intro _ _
    have := s.past_lt x
    omega
  | @opens s now d hs k room available rest ih =>
    intro hmiss hout
    have := ih (by rw [size_opened]; exact (List.forall_mem_cons.1 hmiss).2) (by rwa [past_opened available])
    rwa [past_opened available, size_opened] at this
  | @closes s place call hs k within isOpen rest ih =>
    intro hmiss hout
    have hlen := length_closed isOpen
    have hlt := s.past_lt x
    have hinside := call.inside.toNat_le
    have hpast := s.past_closed place call x
    rw [← s.size_closed place call] at hmiss
    by_cases hstep : s.past x + 1 < s.pool.size
    · rw [if_pos hstep] at hpast
      have := ih hmiss (by omega)
      rw [hpast, size_closed] at this
      omega
    · -- the turn comes to the arc, and the call that brought it there is open no more
      rw [if_neg hstep] at hpast
      have := rest.completed_le_of_trapped hmiss (by omega)
      omega

/-- **Not all of an arc is passed over.** If no node of an arc of `c` is handed out, then fewer calls are opened and
closed than once round and the open ones. -/
theorem completed_lt (h : s.Stretch c hs k) (hc : 1 ≤ c) (hearlier : ∀ call ∈ s.calls, call.inside = false) :
    PassesOver s.pool.size c x hs → k + 1 < s.pool.size + c := by
  induction h with
  | @done s =>
    intro _
    have := s.pool.size_pos
    omega
  | @opens s now d hs k room available rest ih =>
    intro hmiss
    have hout := hmiss.le_past available
    have := (Stretch.opens room available rest).completed_le_of_outside hmiss hout
    omega
  | @closes s place call hs k within isOpen rest ih =>
    intro hmiss
    rw [hearlier call (List.mem_of_getElem? isOpen)]
    have := ih (fun call' h => hearlier call' (List.mem_of_mem_eraseIdx h)) (by rwa [size_closed])
    rwa [size_closed] at this

end Stretch

/-! ## A node that is passed over for ever -/

variable {p : Pool} {h : Handle} {j : Nat}

theorem allAvailable_answered (hp : p.AllAvailable now) : (p.apply (.report h .answered)).AllAvailable now := by
  intro m hm
  obtain ⟨i, hi⟩ := List.mem_iff_getElem?.1 hm
  by_cases hsubject : h.index = i
  · subst hsubject
    rw [Pool.getElem?_report] at hi
    obtain ⟨m', -, rfl⟩ := Option.map_eq_some_iff.1 hi
    rfl
  · rw [Pool.getElem?_apply p (.report h .answered) fun he => hsubject (Option.some.inj he)] at hi
    exact hp m (List.mem_of_getElem? hi)

theorem mod_add_one_ne (hn : 2 ≤ n) (a : Nat) : (a + 1) % n ≠ a % n := by
  intro h
  have hlt := Nat.mod_lt a (show 0 < n by omega)
  rw [← Nat.mod_add_mod] at h
  by_cases hstep : a % n + 1 < n
  · rw [Nat.mod_eq_of_lt hstep] at h; omega
  · rw [show a % n + 1 = n by omega, Nat.mod_self] at h; omega

/-- A call that overlaps no other brings the turn to the next node. -/
theorem Stretch.alone (hc : 1 ≤ c) (hp : p.AllAvailable now) (d : Deadline) : ∃ h p',
    h.index = p.cursor % p.size ∧ p'.size = p.size ∧ p'.AllAvailable now ∧
    p'.cursor % p'.size = (p.cursor + 1) % p.size ∧
    ∀ hs k, Stretch c ⟨p', []⟩ hs k → Stretch c ⟨p, []⟩ (h :: hs) (k + 1) := by
  let s : Traffic := ⟨p, []⟩
  let call : OpenCall := ⟨(p.get now d).1, true⟩
  have hs : s.pool.AllAvailable now := hp
  refine ⟨call.handle, ((s.opened now d).closed 0 call).pool, index_get hs, ?_, allAvailable_answered hp, ?_, ?_⟩
  · rw [size_closed, size_opened]
  · show ((s.opened now d).closed 0 call).turn = _
    rw [turn_closed, turn_opened hs, size_opened, turn, Nat.mod_add_mod]
  · intro hs' k hrest
    have hopen : (s.opened now d).calls[0]? = some call := rfl
    have hclose : Stretch c (s.opened now d) hs' (k + 1) := .closes hc hopen hrest
    exact .opens hc hs hclose

/-- Two calls that are opened before either of them is closed get one node, and bring the turn to the next but one. -/
theorem Stretch.together (hc : 2 ≤ c) (hp : p.AllAvailable now) (d : Deadline) : ∃ h h' p',
    h.index = p.cursor % p.size ∧ h'.index = p.cursor % p.size ∧ p'.size = p.size ∧ p'.AllAvailable now ∧
    p'.cursor % p'.size = (p.cursor + 2) % p.size ∧
    ∀ hs k, Stretch c ⟨p', []⟩ hs k → Stretch c ⟨p, []⟩ (h :: h' :: hs) (k + 2) := by
  let s : Traffic := ⟨p, []⟩
  let t := s.opened now d
  let first : OpenCall := ⟨(s.pool.get now d).1, true⟩
  let second : OpenCall := ⟨(t.pool.get now d).1, true⟩
  have hs : s.pool.AllAvailable now := hp
  have ht : t.pool.AllAvailable now := hp
  refine ⟨first.handle, second.handle, (((t.opened now d).closed 0 second).closed 0 first).pool, index_get hs,
    (index_get ht).trans (turn_opened hs), ?_, allAvailable_answered (allAvailable_answered hp), ?_, ?_⟩
  · rw [size_closed, size_closed, size_opened, size_opened]
  · show (((t.opened now d).closed 0 second).closed 0 first).turn = _
    rw [turn_closed, turn_closed, turn_opened ht, turn_opened hs, size_closed, size_opened, size_opened, turn,
      Nat.mod_add_mod, Nat.add_assoc, Nat.mod_add_mod]
  · intro hs' k hrest
    have hone : ((t.opened now d).closed 0 second).calls[0]? = some first := rfl
    have hboth : (t.opened now d).calls[0]? = some second := rfl
    have hfirst : Stretch c ((t.opened now d).closed 0 second) hs' (k + 1) :=
      .closes (by show 1 ≤ c; omega) hone hrest
    have hsecond : Stretch c (t.opened now d) hs' (k + 2) := .closes hc hboth hfirst
    exact .opens (by show 0 < c; omega) hs (.opens (by show 1 < c; omega) ht hsecond)

/-- Two callers in step: in each round both ask and then both report. -/
theorem Stretch.inStep (hc : 2 ≤ c) (d : Deadline) : ∀ (rounds : Nat) (p : Pool), p.AllAvailable now →
    ∃ hs, Stretch c ⟨p, []⟩ hs (2 * rounds) ∧ hs.map Handle.index =
      (List.range rounds).flatMap fun i => [(p.cursor + 2 * i) % p.size, (p.cursor + 2 * i) % p.size]
  | 0, p, _ => ⟨[], .done, rfl⟩
  | rounds + 1, p, hp => by
    obtain ⟨h, h', p', hh, hh', hsize, hp', hcursor, hextend⟩ := Stretch.together hc hp d
    obtain ⟨hs, hrest, hindices⟩ := Stretch.inStep hc d rounds p' hp'
    have hlater (i : Nat) : (p'.cursor + 2 * i) % p'.size = (p.cursor + 2 * (i + 1)) % p.size := by
      rw [← Nat.mod_add_mod, hcursor, hsize, Nat.mod_add_mod, Nat.add_assoc, Nat.mul_add, Nat.add_comm 2]
    refine ⟨h :: h' :: hs, hextend hs _ hrest, ?_⟩
    simp only [hlater] at hindices
    rw [List.map_cons, List.map_cons, hh, hh', hindices, List.range_succ_eq_map, List.flatMap_cons, List.flatMap_map]
    rfl

/-- Two callers keep the turn away from the node at `j`: one of them goes round by itself, and when the turn stands
before `j` both ask and then both report. -/
theorem exists_starving (hc : 2 ≤ c) (now : Instant) (d : Deadline) : ∀ (N : Nat) (p : Pool), 2 ≤ p.size →
    p.AllAvailable now → p.cursor % p.size ≠ j →
    ∃ hs k, N ≤ k ∧ Stretch c ⟨p, []⟩ hs k ∧ ∀ h ∈ hs, h.index ≠ j
  | 0, p, _, _, _ => ⟨[], 0, Nat.le_refl 0, .done, nofun⟩
  | N + 1, p, hn, hp, hj => by
    by_cases hnext : (p.cursor + 1) % p.size = j
    · obtain ⟨h, h', p', hh, hh', hsize, hp', hcursor, hextend⟩ := Stretch.together hc hp d
      have hskip : p'.cursor % p'.size ≠ j := by
        rw [hcursor, ← hnext]
        exact mod_add_one_ne hn (p.cursor + 1)
      obtain ⟨hs, k, hk, hrest, hmiss⟩ := exists_starving hc now d N p' (hsize ▸ hn) hp' hskip
      refine ⟨_, _, Nat.add_le_add hk (by decide), hextend hs k hrest, ?_⟩
      exact List.forall_mem_cons.2 ⟨hh ▸ hj, List.forall_mem_cons.2 ⟨hh' ▸ hj, hmiss⟩⟩
    · obtain ⟨h, p', hh, hsize, hp', hcursor, hextend⟩ := Stretch.alone (Nat.le_of_succ_le hc) hp d
      obtain ⟨hs, k, hk, hrest, hmiss⟩ := exists_starving hc now d N p' (hsize ▸ hn) hp' (hcursor ▸ hnext)
      exact ⟨_, _, Nat.add_le_add_right hk 1, hextend hs k hrest, List.forall_mem_cons.2 ⟨hh ▸ hj, hmiss⟩⟩

end Traffic

/-- **Turns of overlapping calls.** Take a stretch of events on a pool whose nodes are all out of backoff, with at most
`c` calls open at any time, in which at least as many calls are both opened and closed as the pool has nodes, and `c - 1`
more. Of any `c` neighbours on the circle it hands out one; if no calls overlap, it hands out each node. If calls may
overlap, then no number of them is enough for each node: any node at which the turn does not stand can be passed over
as long as one likes. -/
theorem overlapping_turns {c : Nat} (hc : 1 ≤ c) :
    (∀ (s : Traffic) (hs : List Handle) (k : Nat), s.Stretch c hs k → (∀ call ∈ s.calls, call.inside = false) →
      s.pool.size + c ≤ k + 1 → ∀ x < s.pool.size, ∃ h ∈ hs, ∃ step < c, h.index = (x + step) % s.pool.size) ∧
    (2 ≤ c → ∀ (p : Pool) (now : Instant) (j : Nat), 2 ≤ p.size → p.AllAvailable now → p.cursor % p.size ≠ j →
      ∀ N, ∃ hs k, N ≤ k ∧ Traffic.Stretch c ⟨p, []⟩ hs k ∧ ∀ h ∈ hs, h.index ≠ j) := by
  refine ⟨fun s hs k hstretch hearlier hk x hx => ?_, fun hc p now j hn hp hj N =>
    Traffic.exists_starving hc now ⟨now, none⟩ N p hn hp hj⟩
  by_contra hnone
  have hmiss : Traffic.PassesOver s.pool.size c x hs := fun h hh step hstep hindex => hnone ⟨h, hh, step, hstep, hindex⟩
  have := hstretch.completed_lt hc hearlier hmiss
  omega

/-- Two callers in step on three nodes get the first and the third, so one of any two neighbours. They can also leave
out the second node a hundred times. -/
theorem overlapping_turns_three : ∃ (s : Traffic) (hs : List Handle), s.pool.size = 3 ∧ s.Stretch 2 hs 4 ∧
    hs.map Handle.index = [0, 0, 2, 2] ∧ (∀ x < 3, ∃ h ∈ hs, ∃ step < 2, h.index = (x + step) % 3) ∧
    ∃ hs k, 100 ≤ k ∧ s.Stretch 2 hs k ∧ ∀ h ∈ hs, h.index ≠ 1 := by
  let p : Pool := ⟨[⟨⟨"http://a:9984", []⟩, Health.fresh⟩, ⟨⟨"http://b:9984", []⟩, Health.fresh⟩,
    ⟨⟨"http://c:9984", []⟩, Health.fresh⟩], List.cons_ne_nil _ _, 0, Backoff.standard⟩
  have hp : p.AllAvailable 0 := by decide
  obtain ⟨hs, hstretch, hindices⟩ := Traffic.Stretch.inStep (Nat.le_refl 2) ⟨0, none⟩ 2 p hp
  obtain ⟨harcs, hstarving⟩ := overlapping_turns (c := 2) (by decide)
  refine ⟨⟨p, []⟩, hs, rfl, hstretch, hindices.trans (by decide), ?_, ?_⟩
  · exact harcs _ _ _ hstretch nofun (by decide)
  · exact hstarving (by decide) p 0 1 (by decide) hp (by decide) 100

/-- Two callers in step on two new nodes: all of their four calls get the first node. -/
theorem lockstep_skips_node : ∃ (p : Pool) (hs : List Handle),
    Pool.ofConnections [⟨"http://a:9984", []⟩, ⟨"http://b:9984", []⟩] Backoff.standard = .ok p ∧
    Traffic.Stretch 2 ⟨p, []⟩ hs (2 * p.size) ∧ hs.map Handle.index = [0, 0, 0, 0] ∧
    ¬ ∀ j < p.size, ∃ h ∈ hs, h.index = j := by
  let p : Pool := ⟨[⟨⟨"http://a:9984", []⟩, Health.fresh⟩, ⟨⟨"http://b:9984", []⟩, Health.fresh⟩],
    List.cons_ne_nil _ _, 0, Backoff.standard⟩
  have hp : p.AllAvailable 0 := by decide
  obtain ⟨hs, hstretch, hindices⟩ := Traffic.Stretch.inStep (Nat.le_refl 2) ⟨0, none⟩ 2 p hp
  have hfirst : hs.map Handle.index = [0, 0, 0, 0] := hindices.trans (by decide)
  refine ⟨p, hs, rfl, hstretch, hfirst, fun hall => ?_⟩
  obtain ⟨h, hh, hindex⟩ := hall 1 (by decide)
  have hmem : h.index ∈ [0, 0, 0, 0] := hfirst ▸ List.mem_map_of_mem hh
  rw [hindex] at hmem
  exact absurd hmem (by decide)

end FederatedLedger
