import FederatedLedger.Connection

/-!
# Networks and their surroundings

A network carries one request to a node and tells how that ended. What it may depend on besides is its state,
of a type of its own. A `World` is a network together with the clock and the source of random numbers of
those who use it.
-/

namespace FederatedLedger

/-- How one try to reach a node ended. -/
structure Exchange where
  elapsed : Duration
  /-- Whether the request came to the node. -/
  received : Bool
  reply : Except LinkFault Reply

/-- A way to reach nodes. `send` is given its state, the time, the request and the time that the attempt may
take; without an answer it never ends. -/
structure Network (σ : Type) where
  send : σ → Instant → Outgoing → Option Duration → Option (Exchange × σ)

/-- The surroundings of calls. -/
structure World (σ : Type) where
  network : Network σ
  /-- Sleeping takes a whole number of ticks of so many nanoseconds. -/
  tick : Nat
  /-- The nanoseconds between the start of a call and its first look at the nodes. -/
  lag : Nat
  /-- The random numbers. -/
  draw : Nat → Nat

namespace World

/-- A world in which time passes only in sleeps and attempts, and sleeps are exact. -/
def exact (network : Network σ) : World σ := ⟨network, 1, 0, fun _ => 0⟩

/-- The instant at which a sleep ends. -/
def wake (w : World σ) (now : Instant) (wait : Duration) : Instant :=
  if wait.isZero then now else now + wait.roundUp w.tick

end World

namespace Network

/-- A network in which no node can be reached. -/
def unreachable : Network Unit :=
  ⟨fun _ _ _ _ => some (⟨Duration.zero, false, .error .unreachable⟩, ())⟩

end Network
end FederatedLedger
