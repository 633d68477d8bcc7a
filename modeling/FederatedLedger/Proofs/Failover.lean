import FederatedLedger.Proofs.Outcome
import Mathlib.Algebra.Ring.Int.Defs

/-!
# Failover

A call reaches a node that answers (`forward_reaches_available`). The measure is how far the node lies ahead of
the cursor: it is out of backoff, so no turn chooses a node behind it, and after the failure of another node the
turn has come nearer to it (`Rotation.ahead_advance`), whatever nodes enter or leave backoff meanwhile.
-/

namespace FederatedLedger

variable {σ : Type}

/-- The attempt is a success, or the failure of another node than the one at `j`. -/
def Attempt.Favours (j : Nat) (retryUnavailable : Bool) (a : Attempt) : Prop :=
  (∃ data, a.result = .ok data) ∨ a.index ≠ j ∧ a.Failed retryUnavailable

instance (ru : Bool) (e : RequestError) : Decidable (e.NodeFailure ru) :=
  decidable_of_iff _ RequestError.isNodeFailure_iff

instance (j : Nat) (ru : Bool) (a : Attempt) : Decidable (a.Favours j ru) :=
  match h : a.result with
  | .ok data => .isTrue (.inl ⟨data, h⟩)
  | .error e => decidable_of_iff (a.index ≠ j ∧ e.NodeFailure ru)
      ⟨fun ⟨hj, hf⟩ => .inr ⟨hj, e, h, hf⟩, by
        rintro (⟨data, hok⟩ | ⟨hj, e', he, hf⟩)
        · rw [h] at hok; cases hok
        · rw [h] at he; cases he; exact ⟨hj, hf⟩⟩

/-- The time that attempts took on other nodes than the one at `j`. -/
def Attempt.elapsedElsewhere (j : Nat) (attempts : List Attempt) : Int :=
  ((attempts.filter fun a => a.index ≠ j).map fun a => a.finished - a.started).sum

theorem Attempt.elapsedElsewhere_cons {j : Nat} {a : Attempt} (attempts : List Attempt) (h : a.index ≠ j) :
    elapsedElsewhere j (a :: attempts) = a.finished - a.started + elapsedElsewhere j attempts := by
  simp [elapsedElsewhere, h]

namespace Progress
variable {w : World σ} {c : Call} {p q : Progress σ} {o : Opening} {a : Attempt} {j : Nat} {m : Member}

/-- The turn is favourable to the node at `j`: its attempt ends with a success, or with the failure of another
node, and the attempts on other nodes before it took less than the budget of the call. -/
structure Favours (w : World σ) (c : Call) (j : Nat) (p : Progress σ) : Prop where
  attempt : ∀ o ∈ p.opening? w c, ∃ x ∈ o.attempt w p.network c.request, x.1.Favours j c.retryUnavailable
  quick : ∀ e ∈ c.deadline.notAfter, c.deadline.started + Attempt.elapsedElsewhere j p.attempts < e

instance (w : World σ) (c : Call) (j : Nat) (p : Progress σ) : Decidable (p.Favours w c j) :=
  decidable_of_iff (_ ∧ _) ⟨fun h => ⟨h.1, h.2⟩, fun h => ⟨h.1, h.2⟩⟩

/-- The node at `j` can be used, and all the time so far went into attempts on others, without any sleep. -/
structure Undelayed (c : Call) (j : Nat) (m : Member) (p : Progress σ) : Prop where
  member : p.pool.members[j]? = some m
  available : m.health.isAvailable p.now = true
  clock : p.now = c.deadline.started + Attempt.elapsedElsewhere j p.attempts
  sleepless : ∀ a ∈ p.attempts, a.started = a.chosen

/-- No node behind one that can be used is chosen, and the call does not sleep. -/
theorem Undelayed.opening (hp : p.Undelayed c j m) (hlive : c.deadline.isExpired p.now = false) :
    ∃ o, p.opening? w c = some o ∧ o.chosen = p.now ∧ o.started = p.now ∧
      Rotation.ahead p.pool.size p.pool.cursor o.handle.index ≤ Rotation.ahead p.pool.size p.pool.cursor j := by
  obtain ⟨hzero, hahead⟩ := p.pool.get_of_available p.now c.deadline hp.member hp.available
  have hin : (p.pool.get p.now c.deadline).1.exceeds = false := by
    rw [Pool.exceeds_get, Deadline.wouldExpire_of_isZero hzero, hlive]
  have hwake : w.wake p.now (p.pool.get p.now c.deadline).1.wait = p.now := by
    simp only [World.wake, hzero, if_true]
  refine ⟨⟨(p.pool.get p.now c.deadline).1, p.now, p.now, c.deadline.remaining p.now⟩, ?_, rfl, rfl, hahead⟩
  simp only [opening?, hlive, hin, hwake, Bool.or_self, Bool.false_eq_true, if_false]

/-- An attempt that begins when its node is chosen adds no sleep. -/
theorem Undelayed.sleepless_tried (hp : p.Undelayed c j m) (ht : Tried w c p o a q) (hch : o.chosen = p.now)
    (hst : o.started = p.now) : ∀ b ∈ q.attempts, b.started = b.chosen := by
  obtain ⟨-, -, hchosen, hstarted, -, -⟩ := Opening.attempt_fields ht.attempt
  rw [ht.attempts]
  exact List.forall_mem_cons.2 ⟨by rw [hstarted, hchosen, hch, hst], hp.sleepless⟩

/-- The failure of another node leaves the node at `j` as it is. -/
theorem Undelayed.tried {e : RequestError} (hp : p.Undelayed c j m) (ht : Tried w c p o a q)
    (hch : o.chosen = p.now) (hst : o.started = p.now) (hj : a.index ≠ j) (hr : a.result = .error e)
    (hf : e.isNodeFailure c.retryUnavailable = true) : q.Undelayed c j m := by
  obtain ⟨-, -, -, hstarted, -, hle⟩ := Opening.attempt_fields ht.attempt
  rw [hst] at hstarted hle
  refine ⟨?_, ?_, ?_, hp.sleepless_tried ht hch hst⟩
  · rw [ht.pool, Pool.noteAttempt_of_failure hr hf, Pool.members_failed, Pool.members_get,
      List.getElem?_modify_ne _ _ hj]
    exact hp.member
  · rw [ht.now]
    exact Health.isAvailable_mono hle hp.available
  · have := hp.clock
    rw [ht.now, ht.attempts, Attempt.elapsedElsewhere_cons _ hj, hstarted]
    grind

/-- The failure of a node brings the nodes behind it nearer. -/
theorem Tried.ahead_lt {e : RequestError} (ht : Tried w c p o a q) (hj : j < p.pool.size) (hne : a.index ≠ j)
    (hle : Rotation.ahead p.pool.size p.pool.cursor o.handle.index ≤ Rotation.ahead p.pool.size p.pool.cursor j)
    (hr : a.result = .error e) (hf : e.isNodeFailure c.retryUnavailable = true) :
    q.pool.size = p.pool.size ∧
      Rotation.ahead q.pool.size q.pool.cursor j < Rotation.ahead p.pool.size p.pool.cursor j := by
  rw [ht.index, ht.handle] at hne
  rw [ht.handle] at hle
  have hlt := p.pool.ahead_advance_get p.now c.deadline hj hne hle
  rw [ht.pool, Pool.noteAttempt_of_failure hr hf, Pool.size_failed, Pool.cursor_failed, Pool.size_get]
  exact ⟨rfl, hlt⟩

/-- A favourable turn ends the call with data, or goes on after the failure of another node. -/
theorem Favours.turn (hp : p.Favours w c j) (ho : p.opening? w c = some o) :
    ∃ a q, Tried w c p o a q ∧ ((∃ data, p.step w c = some (.ended (.ok data) q)) ∨
      (p.step w c = some (.again q) ∧ a.index ≠ j ∧
        ∃ e, a.result = .error e ∧ e.isNodeFailure c.retryUnavailable = true)) := by
  obtain ⟨⟨a, n⟩, ha, hfav⟩ := hp.attempt o ho
  rcases hfav with ⟨data, hok⟩ | ⟨hj, e, hr, hf⟩
  · obtain ⟨q, hq, ht⟩ := step_of_verdict ho ha (.data hok)
    exact ⟨a, q, ht, .inl ⟨data, hq⟩⟩
  · have hf := RequestError.isNodeFailure_iff.2 hf
    obtain ⟨q, hq, ht, -⟩ := step_of_failure ho ha hr hf
    exact ⟨a, q, ht, .inr ⟨hq, hj, e, hr, hf⟩⟩

theorem Favours.isExpired (hfav : p.Favours w c j) (hp : p.Undelayed c j m) :
    c.deadline.isExpired p.now = false := by
  cases he : c.deadline.notAfter with
  | none => exact Deadline.isExpired_of_none he
  | some e =>
    rw [Deadline.isExpired_eq_false_iff he, hp.clock]
    exact hfav.quick e he

/-- The induction is on the turns; the steps to the node at `j` are fewer, so they are used up first. -/
theorem Undelayed.run : ∀ (turns : Nat) (p : Progress σ), (∀ q, Reaches w c p q → q.Favours w c j) →
    p.Undelayed c j m → Rotation.ahead p.pool.size p.pool.cursor j < turns →
    ∃ data q, Progress.run w c turns p = some (.ok data, q) ∧
      q.attempts.length ≤ p.attempts.length + Rotation.ahead p.pool.size p.pool.cursor j + 1 ∧
      ∀ a ∈ q.attempts, a.started = a.chosen
  | 0, _, _, _, h => absurd h (Nat.not_lt_zero _)
  | turns + 1, p, hfav, hp, hturns => by
    have hturn := hfav p .refl
    obtain ⟨o, ho, hch, hst, hle⟩ := hp.opening (w := w) (hturn.isExpired hp)
    obtain ⟨a, q, ht, ⟨data, hend⟩ | ⟨hagain, hj, e, hr, hf⟩⟩ := hturn.turn ho
    · refine ⟨data, q, by simp only [Progress.run, hend], ?_, hp.sleepless_tried ht hch hst⟩
      rw [ht.attempts, List.length_cons]; omega
    · have hsize : j < p.pool.size := (List.getElem?_eq_some_iff.1 hp.member).1
      obtain ⟨hsame, hlt⟩ := ht.ahead_lt hsize hj hle hr hf
      obtain ⟨data, q', hrun, hlen, hsleep⟩ := Undelayed.run turns q
        (fun q' h => hfav q' (.head hagain h)) (hp.tried ht hch hst hj hr hf) (by omega)
      refine ⟨data, q', by simp only [Progress.run, hagain, hrun], ?_, hsleep⟩
      rw [ht.attempts, List.length_cons] at hlen
      omega

/-! ## A check of the turns -/

/-- Where a call stands before each of its turns. -/
def trail (w : World σ) (c : Call) : Nat → Progress σ → List (Progress σ)
  | 0, _ => []
  | turns + 1, p => p :: match p.step w c with
    | some (.again q) => trail w c turns q
    | _ => []

/-- A call that ends within so many turns comes to nothing else. -/
theorem Reaches.mem_trail {r : Except TransportError Json × Progress σ} : ∀ {turns : Nat} {p : Progress σ},
    Reaches w c p q → Progress.run w c turns p = some r → q ∈ trail w c turns p
  | 0, _, _, hrun => by cases hrun
  | turns + 1, p, h, hrun => by
    rcases Relation.ReflTransGen.cases_head h with rfl | ⟨p', hstep, h⟩
    · exact List.mem_cons_self
    · simp only [Progress.run, hstep] at hrun
      simp only [trail, hstep]
      exact List.mem_cons_of_mem _ (mem_trail h hrun)

end Progress

/-- **Failover.** If a node is out of backoff when a call starts, and every turn is favourable to it, then the
call succeeds, after at most one attempt for each node of the pool and without any sleep. As many turns as there
are nodes are enough. -/
theorem forward_reaches_available {w : World σ} (hlag : w.lag = 0) (t : Transport) (request : Request)
    (now : Instant) (network : σ) {j : Nat} {m : Member} (hm : t.pool.members[j]? = some m)
    (hj : m.health.isAvailable now = true)
    (hfav : ∀ p, Progress.Reaches w (t.call request now) (t.start w now network) p →
      p.Favours w (t.call request now) j) :
    ∀ turns, t.pool.size ≤ turns → ∃ out data, t.forward w turns request now network = some out ∧
      out.result = .ok data ∧ out.attempts.length ≤ t.pool.size ∧ ∀ a ∈ out.attempts, a.started = a.chosen := by
  intro turns hturns
  have hnow : (t.start w now network).now = now := by simp [Transport.start, hlag]
  have hundelayed : (t.start w now network).Undelayed (t.call request now) j m :=
    ⟨hm, hnow.symm ▸ hj, hnow.trans (Int.add_zero now).symm, by simp [Transport.start]⟩
  have hahead : Rotation.ahead t.pool.size t.pool.cursor j < t.pool.size :=
    Rotation.ahead_lt _ (List.getElem?_eq_some_iff.1 hm).1
  obtain ⟨data, q, hrun, hlen, hsleep⟩ := Progress.Undelayed.run turns _ hfav hundelayed
    (Nat.lt_of_lt_of_le hahead hturns)
  refine ⟨_, data, by rw [Transport.forward, hrun]; rfl, rfl, ?_, ?_⟩
  · rw [List.length_reverse]
    refine Nat.le_trans hlen ?_
    simp only [Transport.start, List.length_nil]
    omega
  · exact fun a ha => hsleep a (List.mem_reverse.1 ha)

/-- The first node cannot be reached, and the second one answers. -/
theorem forward_reaches_available_pair : ∃ out data,
    (Transport.pair Health.fresh Health.fresh (some (Duration.ofSecs 1)) false).forward
      (World.exact Script.network) 2 Request.get 0
      (Script.pair (300, .drop) (1, .reply ⟨200, none, []⟩)) = some out ∧
    out.result = .ok data ∧ out.attempts.length ≤ 2 ∧ ∀ a ∈ out.attempts, a.started = a.chosen := by
  let w := World.exact Script.network
  let t := Transport.pair Health.fresh Health.fresh (some (Duration.ofSecs 1)) false
  let s := t.start w 0 (Script.pair (300, .drop) (1, .reply ⟨200, none, []⟩))
  have hends : (Progress.run w (t.call Request.get 0) 2 s).isSome = true := by decide +kernel
  obtain ⟨r, hr⟩ := Option.isSome_iff_exists.1 hends
  have htrail : ∀ p ∈ Progress.trail w (t.call Request.get 0) 2 s, p.Favours w (t.call Request.get 0) 1 := by
    decide +kernel
  exact forward_reaches_available rfl t Request.get 0 _ rfl rfl (fun p hp => htrail p (hp.mem_trail hr)) 2
    (by decide)

end FederatedLedger
