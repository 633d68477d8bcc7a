import FederatedLedger.Ledger.Transaction
import FederatedLedger.Crypto.Keccak

/-!
# Preparing transactions

A draft says what a transaction should do; `Draft.prepare` checks it and builds the unsigned
transaction. The id of a transaction is the hash of its canonical text without id and signatures, so
`transactionId` gives the same id for all signed forms of a transaction.
-/

namespace FederatedLedger

/-- Who receives an output, and how much. -/
structure Recipient where
  publicKeys : List String
  amount : UInt64
deriving DecidableEq, Repr

/-- One owner who receives the amount 1 (`Recipient::single`). -/
def Recipient.single (publicKey : String) : Recipient := ⟨[publicKey], 1⟩

/-- What a transaction should do (`PrepareRequest`). -/
structure Draft where
  operation : Operation
  /-- Who issues a CREATE. -/
  signers : List String
  recipients : List Recipient
  asset : Option Asset
  metadata : Option Json
  /-- What a TRANSFER spends. -/
  inputs : List Input

/-- The draft of a CREATE by some owners (`PrepareRequest::create`). -/
def Draft.create (signers : List String) : Draft := ⟨.create, signers, [], none, none, []⟩

/-- The draft of a TRANSFER of an asset (`PrepareRequest::transfer`). -/
def Draft.transfer (inputs : List Input) (assetId : String) (recipients : List Recipient) : Draft :=
  ⟨.transfer, [], recipients, some (.link assetId), none, inputs⟩

/-- The transaction format that is written (`TX_VERSION`). -/
def transactionVersion : String := "2.0"

/-- The Keccak-256 hash of the canonical text of a value, as hexadecimal digits (`hash_transaction`). -/
def Json.digest (v : Json) : String := Hex.ofBytes (Keccak.hash (utf8 v.canonicalText))

namespace Condition

/-- The condition that one key signs. -/
def single (publicKey : String) : ConditionDetails := ⟨"ecdsa-secp256k1", some publicKey, none, []⟩

/-- The condition for the owners of an output: one key signs alone, several have to sign all. -/
def detailsFor : List String → ConditionDetails
  | [key] => single key
  | keys => ⟨"threshold-sha-256", none, some (UInt32.ofNat keys.length), keys.map single⟩

/-- The condition for the owners of an output, named by the hash of its details (`condition_for`). -/
def forKeys (keys : List String) : Condition :=
  let details := detailsFor keys
  ⟨details, "ni:///keccak-256;" ++ details.toJson.digest ++ "?fpt=" ++ details.kind⟩

end Condition

namespace Transaction

/-- The transaction without its id and signatures. -/
def unsigned (t : Transaction) : Transaction :=
  { t with id := none, inputs := t.inputs.map fun i => { i with fulfillment := none } }

/-- The id of a transaction (`transaction_id`): the hash of what is signed. -/
def transactionId (t : Transaction) : String := t.unsigned.toJson.digest

/-- The transaction with its id. -/
def withId (t : Transaction) : Transaction := { t with id := some t.transactionId }

/-- The input that spends output `index` of this transaction, owned by that output's keys
(`Transaction::spend_output`). -/
def spendOutput (t : Transaction) (index : UInt32) : Except LedgerError Input :=
  match t.id, t.outputs[index.toNat]? with
  | some id, some output => .ok ⟨output.publicKeys, some ⟨id, index⟩, none⟩
  | _, _ => .error (.invalidInput index.toNat)

end Transaction

namespace Draft

/-- The outputs for recipients, the first of which is number `i` (`build_outputs`). -/
def outputs : Nat → List Recipient → Except LedgerError (List Output)
  | _, [] => .ok []
  | i, r :: rest =>
    if r.amount = 0 then .error (.zeroAmount i)
    else if r.publicKeys = [] then .error .missingRecipients
    else do
      let os ← outputs (i + 1) rest
      return ⟨r.publicKeys, toString r.amount.toNat, Condition.forKeys r.publicKeys⟩ :: os

/-- The inputs of a TRANSFER, the first of which is number `i`, without signatures. -/
def spent : Nat → List Input → Except LedgerError (List Input)
  | _, [] => .ok []
  | i, input :: rest =>
    if input.fulfills = none ∨ input.ownersBefore = [] then .error (.invalidInput i)
    else do
      let is ← spent (i + 1) rest
      return { input with fulfillment := none } :: is

/-- Who receives the outputs of a CREATE: without recipients the signers themselves. -/
def createRecipients (d : Draft) : List Recipient :=
  if d.recipients = [] then [⟨d.signers, 1⟩] else d.recipients

/-- The unsigned transaction that issues an asset (`prepare_create`). -/
def prepareCreate (d : Draft) : Except LedgerError Transaction :=
  if d.signers = [] then .error .missingSigners
  else match d.asset.getD (.data none) with
    | .link _ => .error .createOfLink
    | .data content => do
      let os ← outputs 0 d.createRecipients
      return Transaction.withId
        ⟨none, transactionVersion, .create, .data content, d.metadata, [⟨d.signers, none, none⟩], os⟩

/-- The unsigned transaction that moves an asset on (`prepare_transfer`). -/
def prepareTransfer (d : Draft) : Except LedgerError Transaction :=
  if d.inputs = [] then .error .missingInputs
  else if d.recipients = [] then .error .missingRecipients
  else match d.asset with
    | some (.link id) => do
      let is ← spent 0 d.inputs
      let os ← outputs 0 d.recipients
      return Transaction.withId ⟨none, transactionVersion, .transfer, .link id, d.metadata, is, os⟩
    | _ => .error .transferOfData

/-- Checks a draft and builds the unsigned transaction (`prepare_transaction`). -/
def prepare (d : Draft) : Except LedgerError Transaction :=
  match d.operation with
  | .create => d.prepareCreate
  | .transfer => d.prepareTransfer

end Draft
end FederatedLedger
