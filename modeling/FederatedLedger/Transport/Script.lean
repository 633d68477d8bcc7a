import FederatedLedger.Transport.Network

/-!
# Scripted networks

A network whose nodes answer by a script: for each `host:port` how it takes its first, second and further
requests. A node without a script, or at the end of one, answers at once that all is well.
-/

namespace FederatedLedger

/-- How a node takes a request. -/
inductive Reaction where
  | reply (r : Reply)
  /-- The connection fails. -/
  | drop
  /-- The answer breaks off. -/
  | truncate
  /-- No answer comes. -/
  | silent
deriving DecidableEq, Repr

/-- A step of a script: a reaction, and the time before it. -/
structure ScriptStep where
  delay : Duration
  reaction : Reaction
deriving DecidableEq, Repr

/-- The steps that a node still has, and how it takes requests after them. -/
structure NodeScript where
  steps : List ScriptStep
  finally? : Option ScriptStep
deriving DecidableEq, Repr

/-- The scripts of nodes by `host:port`. -/
abbrev Script := List (String × NodeScript)

/-- The answer that all is well. -/
def ScriptStep.allWell : ScriptStep :=
  ⟨Duration.zero, .reply ⟨200, some "application/json", utf8 "\x7b\"ok\":true\x7d"⟩⟩

/-- How a node takes its next request, and its script after that. -/
def NodeScript.next (n : NodeScript) : ScriptStep × NodeScript :=
  match n.steps with
  | s :: rest => (s, { n with steps := rest })
  | [] => (n.finally?.getD ScriptStep.allWell, n)

/-- What an attempt with this budget sees of a step. An attempt whose time is over ends exactly then, and
without a budget silence never ends. -/
def ScriptStep.exchange (s : ScriptStep) (budget : Option Duration) : Option Exchange :=
  let late := budget.map fun b => (⟨b, true, .error .late⟩ : Exchange)
  if budget.any fun b => b ≤ s.delay then late
  else match s.reaction with
    | .reply r => some ⟨s.delay, true, .ok r⟩
    | .drop => some ⟨s.delay, true, .error .unreachable⟩
    | .truncate => some ⟨s.delay, true, .error .brokenOff⟩
    | .silent => late

/-- The key of the node that an address leads to. -/
def Url.nodeKey (u : Url) : String := u.host.text ++ ":" ++ toString u.portOrDefault

namespace Script

/-- Takes a step of the script of a node. -/
def next (s : Script) (key : String) : ScriptStep × Script :=
  match s with
  | [] => (ScriptStep.allWell, [])
  | (k, n) :: rest =>
    if k = key then
      let (step, n) := n.next
      (step, (k, n) :: rest)
    else
      let (step, rest) := next rest key
      (step, (k, n) :: rest)

/-- The network whose nodes follow a script. -/
def network : Network Script :=
  ⟨fun script _ out budget =>
    let (step, script) := script.next out.url.nodeKey
    (step.exchange budget).map (·, script)⟩

end Script
end FederatedLedger
