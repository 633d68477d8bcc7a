import FederatedLedger.Cli.Arguments
import FederatedLedger.Client
import FederatedLedger.Decimal.Numeral

/-!
# The commands

What can be asked for on the command line, and how. `Invocation.parse` reads the words of a command line.
-/

namespace FederatedLedger

/-- What to do (`Commands`, with `TxCommands` and `BlockCommands`). -/
inductive Command where
  | ask (question : Api)
  /-- Show the nodes. -/
  | nodes
  /-- Make a new key. -/
  | newKey
  /-- Create an asset with the key of the environment. -/
  | create (data metadata : Option String) (mode : SendMode)

/-- A command, and what is to be changed in the configuration for it (`Cli`). -/
structure Invocation where
  config : Option String
  nodes : List String
  timeout : Option Binary64
  command : Command

namespace Invocation

/-- An integer below a bound; it may be written with a sign. -/
def limitOf? (s : String) : Option UInt32 :=
  match integerOf? s with
  | some n => if 0 ≤ n ∧ n < UInt32.size then some (UInt32.ofNat n.toNat) else none
  | none => none

def heightOf? (s : String) : Option UInt64 :=
  match naturalOf? s with
  | some n => if n < UInt64.size then some (UInt64.ofNat n) else none
  | none => none

def boolOf? (s : String) : Option Bool :=
  if s = "true" then some true else if s = "false" then some false else none

/-- A place that takes any text. -/
def plain (name about : String) : Slot := ⟨name, none, false, false, fun _ => true, about⟩

/-- An argument that has to be given. -/
def argument (name : String) : Slot := { plain name "" with isRequired := true }

def limit : Slot := { plain "limit" "" with accepts := fun s => (limitOf? s).isSome }

/-- A command without commands inside. -/
def leaf (name about : String) (options arguments : List Slot) : CommandSpec :=
  ⟨name, about, options, arguments, []⟩

/-- The commands on transactions (`TxCommands`). -/
def transactionCommands : CommandSpec :=
  ⟨"tx", "Transaction commands", [], [], [
    leaf "retrieve" "Fetch a transaction by id" [] [argument "txid"],
    leaf "status" "Fetch the processing status of a transaction" [] [argument "txid"],
    leaf "get" "List transactions of an asset"
      [{ plain "asset-id" "" with isRequired := true },
        { plain "operation" "" with accepts := fun s => (Operation.parse s).toOption.isSome }] [],
    leaf "create" "Create, sign and submit a CREATE transaction with the key in LEDGER_PRIVATE_KEY"
      [plain "data" "Asset data as JSON", plain "metadata" "Metadata as JSON",
        { plain "mode" "async, sync or commit [default: commit]" with
          accepts := fun s => (SendMode.parse s).toOption.isSome }] []]⟩

/-- The commands on blocks (`BlockCommands`). -/
def blockCommands : CommandSpec :=
  ⟨"blocks", "Block commands", [], [], [
    leaf "get" "Heights of blocks containing a transaction" [] [argument "txid"],
    leaf "retrieve" "Fetch a block by height" []
      [{ argument "height" with accepts := fun s => (heightOf? s).isSome }]]⟩

/-- The program. -/
def program : CommandSpec :=
  ⟨"ledger-cli", "Command line client for ledger federation nodes",
    [⟨"config", some 'c', false, false, fun s => s ≠ "", "TOML driver configuration file"⟩,
      ⟨"node", some 'n', false, true, fun _ => true,
        "Node URL, repeatable. Replaces the nodes of the config file"⟩,
      ⟨"timeout", some 't', false, false, fun s => (Binary64.parse? s).isSome,
        "Overall request timeout in seconds"⟩],
    [], [
    leaf "info" "Show the node root document" [] [],
    leaf "api-info" "Show the API description" [] [],
    leaf "nodes" "Print the normalized node list" [] [],
    leaf "keygen" "Generate a new keypair" [] [],
    transactionCommands,
    leaf "outputs" "List outputs owned by a public key"
      [{ plain "spent" "[possible values: true, false]" with accepts := fun s => (boolOf? s).isSome }]
      [argument "public_key"],
    blockCommands,
    leaf "assets" "Search asset data" [limit] [argument "search"],
    leaf "metadata" "Search transaction metadata" [limit] [argument "search"]]⟩

/-- The command that was given. -/
def commandOf? (a : Arguments) : Option Command :=
  let text (name : String) : String := (a.value? name).getD ""
  let limit := (a.value? "limit").bind limitOf?
  match a.parents.drop 1 ++ [a.command.name] with
  | ["info"] => some (.ask .info)
  | ["api-info"] => some (.ask .apiInfo)
  | ["nodes"] => some .nodes
  | ["keygen"] => some .newKey
  | ["tx", "retrieve"] => some (.ask (.transaction (text "txid")))
  | ["tx", "status"] => some (.ask (.status (text "txid")))
  | ["tx", "get"] =>
    some (.ask (.transactions (text "asset-id")
      ((a.value? "operation").bind fun s => (Operation.parse s).toOption)))
  | ["tx", "create"] =>
    let mode := (a.value? "mode").bind fun s => (SendMode.parse s).toOption
    some (.create (a.value? "data") (a.value? "metadata") (mode.getD SendMode.standard))
  | ["outputs"] => some (.ask (.outputs (text "public_key") ((a.value? "spent").bind boolOf?)))
  | ["blocks", "get"] => some (.ask (.blocksOf (text "txid")))
  | ["blocks", "retrieve"] => (heightOf? (text "height")).map fun h => .ask (.block h)
  | ["assets"] => some (.ask (.assets (text "search") limit))
  | ["metadata"] => some (.ask (.metadata (text "search") limit))
  | _ => none

/-- Reads the words of a command line. -/
def parse (words : List String) : Except Refusal Invocation := do
  let a ← (Arguments.ofCommand program).read words
  match commandOf? a with
  | none => throw .usage
  | some command =>
    return { config := a.value? "config", nodes := a.valuesOf "node"
             timeout := (a.value? "timeout").bind Binary64.parse?, command }

end Invocation
end FederatedLedger
