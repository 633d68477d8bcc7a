import FederatedLedger.Proofs.Turns

/-!
# The time budget of a call

A call whose budget ends at an instant `e` starts every attempt before `e`, gives it exactly what is left up to
`e`, and is over by `e` (`forward_within_budget`). Sleeping goes on from `chosen` to `started`, so every sleep
ends before `e` as well. This needs a clock that moves in sleeps and attempts only (`World.Exact`) and a network
that keeps to the time it is given (`Network.Prompt`).
-/

namespace FederatedLedger

variable {σ : Type}

/-- Time passes in sleeps and attempts only, and a sleep ends when it should. -/
structure World.Exact (w : World σ) : Prop where
  lag : w.lag = 0
  wake : ∀ now wait, w.wake now wait = now + wait.nanos

theorem World.exact_exact (network : Network σ) : (World.exact network).Exact where
  lag := rfl
  wake now wait := by
    unfold World.wake
    split
    · rename_i h
      rw [(Duration.isZero_iff _).1 h]; exact (Int.add_zero now).symm
    · simp [World.exact, Duration.roundUp]

/-- No attempt takes longer than it may. -/
def Network.Prompt (network : Network σ) : Prop :=
  ∀ s now out r x s', network.send s now out (some r) = some (x, s') → x.elapsed ≤ r

theorem ScriptStep.exchange_elapsed {s : ScriptStep} {r : Duration} {x : Exchange}
    (h : s.exchange (some r) = some x) : x.elapsed ≤ r := by
  simp only [exchange, Option.map_some, Option.any_some, decide_eq_true_eq] at h
  split at h
  · cases h; exact Nat.le_refl _
  · rename_i hr
    split at h <;> cases h
    · exact Nat.le_of_lt (Nat.lt_of_not_le hr)
    · exact Nat.le_of_lt (Nat.lt_of_not_le hr)
    · exact Nat.le_of_lt (Nat.lt_of_not_le hr)
    · exact Nat.le_refl _

/-- Scripted nodes are prompt: an attempt whose time is over ends exactly then. -/
theorem Script.network_prompt : Script.network.Prompt := by
  intro s now out r x s' h
  obtain ⟨y, hy, hxy⟩ := Option.map_eq_some_iff.1 h
  cases hxy
  exact ScriptStep.exchange_elapsed hy

theorem Opening.finished_le {w : World σ} (hn : w.network.Prompt) {o : Opening} {n n' : σ} {request : Request}
    {a : Attempt} {r : Duration} (hb : o.budget = some r) (h : o.attempt w n request = some (a, n')) :
    a.finished ≤ o.started + r.nanos := by
  unfold attempt Attempt.run at h
  split at h
  · cases h
    exact Int.le_add_of_nonneg_right (Int.natCast_nonneg _)
  · obtain ⟨⟨x, s⟩, hx, ha⟩ := Option.map_eq_some_iff.1 h
    cases ha
    have : x.elapsed.nanos ≤ r.nanos := hn _ _ _ _ _ _ (hb ▸ hx)
    grind

/-- An attempt that starts before `e` and may take exactly until `e`. -/
def KeepsTo (e started : Instant) (budget : Option Duration) : Prop :=
  started < e ∧ ∃ r, budget = some r ∧ 0 < r.nanos ∧ started + r.nanos = e

namespace Progress
variable {w : World σ} {c : Call} {p q : Progress σ} {o : Opening} {a : Attempt} {e : Instant}

theorem wake_le (hw : w.Exact) (now : Instant) (wait : Duration) : now ≤ w.wake now wait := by
  rw [hw.wake]
  exact Int.le_add_of_nonneg_right (Int.natCast_nonneg _)

/-- The three looks at the deadline agree: a turn that is not over before the choice, and does not wait too
long, has time left for its attempt. -/
theorem keepsTo_of_opening (hw : w.Exact) (he : c.deadline.notAfter = some e) (hp : c.deadline.started ≤ p.now)
    (ho : p.opening? w c = some o) : KeepsTo e o.started o.budget := by
  obtain ⟨-, hin, hh, -, hst, hb⟩ := opening?_eq_some_iff.1 ho
  rw [hh, Pool.exceeds_get, ← hh, ← Bool.not_eq_true, Deadline.wouldExpire_iff he hp] at hin
  rw [hw.wake] at hst
  have hstarted : c.deadline.started ≤ o.started := by grind
  have hleft := Deadline.nanos_since_notAfter he hstarted
  refine ⟨by grind, _, by rw [hb, Deadline.remaining_of_notAfter he], ?_, ?_⟩ <;> rw [hleft] <;> grind

/-- The clock does not go back in a turn. -/
theorem Tried.now_le (hw : w.Exact) (ht : Tried w c p o a q) : p.now ≤ o.started ∧ o.started ≤ q.now := by
  obtain ⟨-, -, -, -, hst, -⟩ := opening?_eq_some_iff.1 ht.opening
  refine ⟨by rw [hst]; exact wake_le hw _ _, ?_⟩
  rw [ht.now]
  exact (Opening.attempt_fields ht.attempt).2.2.2.2.2

theorem Reaches.now_le (hw : w.Exact) (h : Reaches w c p q) : p.now ≤ q.now :=
  h.invariant (motive := fun q => p.now ≤ q.now) (Int.le_refl _) fun _ _ _ _ _ _ ih ht _ _ _ =>
    Int.le_trans ih (Int.le_trans (ht.now_le hw).1 (ht.now_le hw).2)

/-- An attempt of a call with an end is over by then. -/
theorem Tried.now_le_end (hw : w.Exact) (hn : w.network.Prompt) (he : c.deadline.notAfter = some e)
    (hp : c.deadline.started ≤ p.now) (ht : Tried w c p o a q) : q.now ≤ e := by
  obtain ⟨-, r, hb, -, hr⟩ := keepsTo_of_opening hw he hp ht.opening
  rw [ht.now, ← hr]
  exact Opening.finished_le hn hb ht.attempt

theorem Reaches.now_le_end (hw : w.Exact) (hn : w.network.Prompt) (he : c.deadline.notAfter = some e)
    (hp : p.now = c.deadline.started) (h : Reaches w c p q) : q.now ≤ e := by
  refine h.invariant (motive := fun q => q.now ≤ e) (hp ▸ (Deadline.notAfter_le he).1)
    fun p' q' o a _ hreach _ ht _ _ _ => ?_
  exact ht.now_le_end hw hn he (hp ▸ hreach.now_le hw)

end Progress

/-- The budget of a call is that of the request, or else of the transport, and runs from its start. -/
theorem Transport.notAfter_call (t : Transport) (request : Request) (now : Instant) :
    (t.call request now).deadline.notAfter = (request.timeout.or t.timeout).bind now.add? := rfl

theorem Transport.start_now (t : Transport) {w : World σ} (hw : w.Exact) (now : Instant) (network : σ) :
    (t.start w now network).now = now := by
  simp [start, hw.lag]

/-- **A call keeps to its budget.** If the budget ends at an instant, then every attempt that the call begins,
in however many turns, and whether or not the call ever ends, starts before that instant and is given exactly
the time up to it; the same holds of the attempts of a finished call, which is over by that instant. Without a
budget no attempt is given a time. -/
theorem forward_within_budget {w : World σ} (hw : w.Exact) (hn : w.network.Prompt) (t : Transport)
    (request : Request) (now : Instant) (network : σ) :
    (∀ T e, request.timeout.or t.timeout = some T → now.add? T = some e →
      (∀ p o, Progress.Reaches w (t.call request now) (t.start w now network) p →
        p.opening? w (t.call request now) = some o → KeepsTo e o.started o.budget) ∧
      ∀ turns out, t.forward w turns request now network = some out →
        out.finished ≤ e ∧ ∀ a ∈ out.attempts, KeepsTo e a.started a.budget) ∧
    (request.timeout.or t.timeout = none →
      (∀ p o, Progress.Reaches w (t.call request now) (t.start w now network) p →
        p.opening? w (t.call request now) = some o → o.budget = none) ∧
      ∀ turns out, t.forward w turns request now network = some out → ∀ a ∈ out.attempts, a.budget = none) := by
  have hstart := t.start_now hw now network
  constructor
  · intro T e hT hend
    have he : (t.call request now).deadline.notAfter = some e := by rw [t.notAfter_call, hT]; exact hend
    have hclock : ∀ p, Progress.Reaches w (t.call request now) (t.start w now network) p →
        (t.call request now).deadline.started ≤ p.now := fun p h => hstart ▸ h.now_le hw
    refine ⟨fun p o hp ho => Progress.keepsTo_of_opening hw he (hclock p hp) ho, fun turns out h => ⟨?_, ?_⟩⟩
    · obtain ⟨p, q, hreach, hended, -, -, hfin, -⟩ := Transport.forward_eq_some h
      rw [hfin]
      rcases Progress.step_ended hended with ⟨-, -, -, hnow, -⟩ | ⟨o, a, ht, -⟩
      · rw [hnow]; exact hreach.now_le_end hw hn he hstart
      · exact ht.now_le_end hw hn he (hclock p hreach)
    · intro a ha
      obtain ⟨p, o, q, hreach, ht⟩ := Transport.forward_makes h a ha
      obtain ⟨-, -, -, hst, hb, -⟩ := Opening.attempt_fields ht.attempt
      rw [hst, hb]
      exact Progress.keepsTo_of_opening hw he (hclock p hreach) ht.opening
  · intro hT
    have he : (t.call request now).deadline.notAfter = none := by rw [t.notAfter_call, hT]; rfl
    have hopen : ∀ (p : Progress σ) o, p.opening? w (t.call request now) = some o → o.budget = none := by
      intro p o ho
      obtain ⟨-, -, -, -, -, hb⟩ := Progress.opening?_eq_some_iff.1 ho
      rw [hb, Deadline.remaining_of_none he]
    refine ⟨fun p o _ ho => hopen p o ho, fun turns out h a ha => ?_⟩
    obtain ⟨p, o, q, -, ht⟩ := Transport.forward_makes h a ha
    rw [(Opening.attempt_fields ht.attempt).2.2.2.2.1]
    exact hopen p o ht.opening

/-- The first node breaks the connection, and the second one stays silent until the time is over. -/
theorem forward_within_budget_pair : ∃ out,
    (Transport.pair Health.fresh Health.fresh (some (Duration.ofSecs 1)) false).forward
      (World.exact Script.network) 3 Request.get 0 (Script.pair (300, .drop) (0, .silent)) = some out ∧
    out.attempts.length = 2 ∧ out.finished ≤ 1000000000 ∧
    ∀ a ∈ out.attempts, KeepsTo 1000000000 a.started a.budget := by
  let t := Transport.pair Health.fresh Health.fresh (some (Duration.ofSecs 1)) false
  let script := Script.pair (300, .drop) (0, .silent)
  have hlen : (t.forward (World.exact Script.network) 3 Request.get 0 script).map
      (fun out => out.attempts.length) = some 2 := by decide +kernel
  obtain ⟨out, h, hout⟩ := Option.map_eq_some_iff.1 hlen
  have hbudget := (forward_within_budget (World.exact_exact Script.network) Script.network_prompt t Request.get 0
    script).1 (Duration.ofSecs 1) 1000000000 rfl (by decide +kernel)
  exact ⟨out, h, hout, hbudget.2 3 out h⟩

end FederatedLedger
