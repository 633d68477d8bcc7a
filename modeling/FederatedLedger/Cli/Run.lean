import FederatedLedger.Cli.Command
import FederatedLedger.Cli.Help
import FederatedLedger.Client
import FederatedLedger.Config.File
import FederatedLedger.Ledger.Sign

/-!
# Running a command

`Invocation.run` does what a command line asks for, in given surroundings, and says what is printed. The
answer of a node is printed as JSON for people, a text as it is. A call whose time is over is printed with
the errors of its attempts.
-/

namespace FederatedLedger

/-- Why a command failed. -/
inductive CommandError where
  | config (error : ConfigError)
  | transport (error : TransportError)
  | ledger (error : LedgerError)
  /-- A value that should be JSON is not. -/
  | notJson

/-- The surroundings of a command. -/
structure Surroundings (σ : Type) where
  /-- The content of a file, if there is one. -/
  file : String → Option Bytes
  /-- The private key of the environment. -/
  privateKey : Option String
  /-- A random number for a new key. -/
  secret : Nat
  world : World σ
  network : σ
  /-- How many turns a call may take. -/
  turns : Nat

/-- What a command leaves behind. -/
structure Printed (σ : Type) where
  exitCode : UInt32
  output : String
  errors : String
  /-- When the command ended; it starts at zero. -/
  finished : Instant
  /-- What the nodes received. -/
  received : List Outgoing

/-- The wording of the error. -/
def CommandError.message : CommandError → String
  | .config e => e.message
  | .transport e => e.message
  | .ledger e => e.message
  | .notJson => "invalid JSON"

/-- The errors of the attempts, if that is what an error is about. -/
def CommandError.attempts : CommandError → List RequestError
  | .transport (.timeout errors) => errors
  | _ => []

/-- How an error is printed. -/
def CommandError.text (e : CommandError) : String :=
  "Error: " ++ e.message ++ "\n" ++ String.join (e.attempts.mapIdx fun i a =>
    "  attempt " ++ toString (i + 1) ++ ": " ++ a.message ++ "\n")

/-- How an answer is printed (`print_json`). -/
def Json.shown : Json → String
  | .string s => s ++ "\n"
  | v => v.pretty ++ "\n"

namespace Invocation

/-- The configuration for a command (`resolve_config`): that of the file, or the usual one, with the changes asked
for. Both the file and the outcome are checked. -/
def configure (i : Invocation) (file : String → Option Bytes) : Except ConfigError Config := do
  let base ← match i.config with
    | none => pure Config.standard
    | some path => Config.load (file path)
  let nodes := if i.nodes = [] then base.nodes else i.nodes.map .plain
  let timeoutSecs := i.timeout.or base.calls.timeoutSecs
  Config.check { base with nodes, calls := { base.calls with timeoutSecs } }

/-- JSON on the command line. -/
def jsonOf (text : Option String) : Except CommandError (Option Json) :=
  match text with
  | none => .ok none
  | some s =>
    match Json.parse? s with
    | some v => .ok (some v)
    | none => .error .notJson

/-- The signed transaction that creates an asset. -/
def creation (privateKey : Option String) (data metadata : Option String) :
    Except CommandError Transaction := do
  let k ← (Keypair.ofEnvironment privateKey).mapError .ledger
  let asset := (← jsonOf data).map fun v => Asset.data (some v)
  let metadata ← jsonOf metadata
  let t ← ({ Draft.create [k.publicKey] with asset, metadata }.prepare).mapError .ledger
  (t.fulfill [k.privateKey]).mapError .ledger

/-- A new key, as JSON (`Keypair::generate`). -/
def newKey (secret : Nat) : Json :=
  match Keypair.ofSecret? secret with
  | none => .null
  | some k => .object [("private_key", .string k.privateKey), ("public_key", .string k.publicKey)]

/-- What is done by itself, or the question to put to a node (`dispatch`). -/
def plan (s : Surroundings σ) (client : Client) : Command → Except CommandError (Json ⊕ Api)
  | .ask question => .ok (.inr question)
  | .nodes => .ok (.inl (.array (client.transport.nodes.map Node.toJson)))
  | .newKey => .ok (.inl (newKey s.secret))
  | .create data metadata mode =>
    (creation s.privateKey data metadata).map fun t => .inr (.submit t mode)

/-- What is printed of a result. -/
def printed (finished : Instant) (received : List Outgoing) : Except CommandError Json → Printed σ
  | .ok v => ⟨0, v.shown, "", finished, received⟩
  | .error e => ⟨1, "", e.text, finished, received⟩

/-- The client for a command. -/
def connect (i : Invocation) (file : String → Option Bytes) : Except CommandError Client := do
  let config ← (i.configure file).mapError .config
  let (client, _) ← (Client.ofConfig config).mapError .transport
  return client

/-- Does what is asked for (`run`). -/
def execute (s : Surroundings σ) (i : Invocation) : Option (Printed σ) :=
  match i.connect s.file with
  | .error e => some (printed 0 [] (.error e))
  | .ok client =>
    match plan s client i.command with
    | .error e => some (printed 0 [] (.error e))
    | .ok (.inl v) => some (printed 0 [] (.ok v))
    | .ok (.inr question) =>
      (client.ask s.world s.turns question [] 0 s.network).map fun outcome =>
        printed outcome.finished (outcome.attempts.filterMap Attempt.received)
          (outcome.result.mapError .transport)

/-- Does what a command line asks for. There is no end if a call does not end. -/
def run (s : Surroundings σ) (words : List String) : Option (Printed σ) :=
  match parse words with
  | .ok i => execute s i
  | .error (.help parents command) => some ⟨0, Help.text parents command, "", 0, []⟩
  | .error .usage =>
    some ⟨2, "", "Usage: " ++ Help.usage [] program ++ "\n", 0, []⟩

end Invocation
end FederatedLedger
