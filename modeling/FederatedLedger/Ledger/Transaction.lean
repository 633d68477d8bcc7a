import FederatedLedger.Json.Parser
import FederatedLedger.Ledger.Operation
import FederatedLedger.Json.Printer

/-!
# Transactions

The data model of the ledger and its JSON form. A transaction issues an asset (CREATE) or moves one on
(TRANSFER): its inputs name the outputs that they spend and the owners who have to sign, its outputs
name the new owners, an amount and the condition under which they may be spent.

Every structure has a `toJson`, which writes the fields in order, and a `read?`, which takes them from a
document. A `null` that is present in free-form data is read as absent data.
-/

namespace FederatedLedger

/-- Free-form data for a new asset, or the id of an existing one. -/
inductive Asset where
  | link (id : String)
  | data (content : Option Json)
deriving Repr

/-- An output of an earlier transaction. -/
structure OutputLink where
  transactionId : String
  outputIndex : UInt32
deriving DecidableEq, Repr

/-- What a transaction spends, who owned it, and their signatures. -/
structure Input where
  ownersBefore : List String
  fulfills : Option OutputLink
  fulfillment : Option String
deriving DecidableEq, Repr

/-- A condition on spending: one key, or a threshold over further conditions. -/
structure ConditionDetails where
  kind : String
  publicKey : Option String
  threshold : Option UInt32
  subconditions : List ConditionDetails
deriving Repr

/-- A condition with the address that names it. -/
structure Condition where
  details : ConditionDetails
  uri : String
deriving Repr

/-- What a transaction creates: an amount, as a decimal numeral, for the owners of some keys. -/
structure Output where
  publicKeys : List String
  amount : String
  condition : Condition
deriving Repr

/-- A ledger transaction. -/
structure Transaction where
  id : Option String
  version : String
  operation : Operation
  asset : Asset
  metadata : Option Json
  inputs : List Input
  outputs : List Output
deriving Repr

/-! ## Writing -/

namespace Json

/-- A member for a value that is left out when there is none. -/
def memberOf (name : String) (f : α → Json) : Option α → List (String × Json)
  | none => []
  | some a => [(name, f a)]

end Json

def Operation.toJson (o : Operation) : Json := .string o.text

def Asset.toJson : Asset → Json
  | .link id => .object [("id", .string id)]
  | .data content => .object [("data", content.getD .null)]

def OutputLink.toJson (l : OutputLink) : Json :=
  .object [("transaction_id", .string l.transactionId), ("output_index", .ofNat l.outputIndex.toNat)]

def Input.toJson (i : Input) : Json :=
  .object [("owners_before", .ofStrings i.ownersBefore),
    ("fulfills", .ofOption OutputLink.toJson i.fulfills),
    ("fulfillment", .ofOption .string i.fulfillment)]

mutual

/-- Only the kind is always written; what is absent or empty is left out. -/
def ConditionDetails.toJson : ConditionDetails → Json
  | ⟨kind, publicKey, threshold, subconditions⟩ =>
    .object (("type", .string kind) ::
      (Json.memberOf "public_key" .string publicKey ++
       Json.memberOf "threshold" (fun t => .ofNat t.toNat) threshold ++
       (if subconditions.isEmpty then []
        else [("subconditions", .array (ConditionDetails.listToJson subconditions))])))

def ConditionDetails.listToJson : List ConditionDetails → List Json
  | [] => []
  | c :: rest => c.toJson :: ConditionDetails.listToJson rest

end

def Condition.toJson (c : Condition) : Json :=
  .object [("details", c.details.toJson), ("uri", .string c.uri)]

def Output.toJson (o : Output) : Json :=
  .object [("public_keys", .ofStrings o.publicKeys), ("amount", .string o.amount),
    ("condition", o.condition.toJson)]

def Transaction.toJson (t : Transaction) : Json :=
  .object [("id", .ofOption .string t.id), ("version", .string t.version),
    ("operation", t.operation.toJson), ("asset", t.asset.toJson),
    ("metadata", t.metadata.getD .null), ("inputs", .array (t.inputs.map Input.toJson)),
    ("outputs", .array (t.outputs.map Output.toJson))]

/-! ## Reading -/

/-- An operation is its exact name, or an object with that name and `null`. -/
def Operation.read? (room : Nat) : Document → Option Operation
  | .string (some s) => ofText s
  | .object [(some s, .null)] => if room = 0 then none else ofText s
  | _ => none
where
  ofText (s : String) : Option Operation :=
    if s = "CREATE" then some .create else if s = "TRANSFER" then some .transfer else none

/-- An object whose field `id` is a text, given once, is a link. Any other object is data, its field
`data` given at most once. Everything in it must have a value. -/
def Asset.read? (room : Nat) (d : Document) : Option Asset := do
  guard (d.value? room).isSome
  let link : Option Asset := do
    let r ← d.namedRecord? ["id"] room
    let id ← r.required? "id" Document.string?
    return .link id
  link <|> do
    let r ← d.namedRecord? ["data"] room
    let content ← r.optional? "data" (Document.value? (room - 1))
    return .data content

/-- A number of 32 bits. -/
def Document.word? (d : Document) : Option UInt32 :=
  (d.natural? UInt32.size).map UInt32.ofNat

def OutputLink.read? (room : Nat) (d : Document) : Option OutputLink := do
  let r ← d.record? ["transaction_id", "output_index"] room
  return {
    transactionId := ← r.required? "transaction_id" Document.string?
    outputIndex := ← r.required? "output_index" Document.word? }

def Input.read? (room : Nat) (d : Document) : Option Input := do
  let r ← d.record? ["owners_before", "fulfills", "fulfillment"] room
  return {
    ownersBefore := ← r.required? "owners_before" (Document.strings? (room - 1))
    fulfills := ← r.optional? "fulfills" (OutputLink.read? (room - 1))
    fulfillment := ← r.optional? "fulfillment" Document.string? }

namespace ConditionDetails

/-- Reads the fields of a condition, given how to read the conditions in it. -/
def readFields? (subconditions? : Document → Option (List ConditionDetails)) (room : Nat)
    (d : Document) : Option ConditionDetails := do
  let r ← d.record? ["type", "public_key", "threshold", "subconditions"] room
  return {
    kind := ← r.required? "type" Document.string?
    publicKey := ← r.defaulted? "public_key" none (Document.optional? Document.string?)
    threshold := ← r.defaulted? "threshold" none (Document.optional? Document.word?)
    subconditions := ← r.defaulted? "subconditions" [] subconditions? }

/-- A condition takes one room for itself and one for the array of the conditions in it. -/
def read? : Nat → Document → Option ConditionDetails
  | 0, _ => none
  | 1, d => readFields? (fun _ => none) 1 d
  | room + 2, d =>
    readFields? (Document.list? (fun _ e => read? room e) (room + 1)) (room + 2) d

end ConditionDetails

def Condition.read? (room : Nat) (d : Document) : Option Condition := do
  let r ← d.record? ["details", "uri"] room
  return {
    details := ← r.required? "details" (ConditionDetails.read? (room - 1))
    uri := ← r.required? "uri" Document.string? }

def Output.read? (room : Nat) (d : Document) : Option Output := do
  let r ← d.record? ["public_keys", "amount", "condition"] room
  return {
    publicKeys := ← r.required? "public_keys" (Document.strings? (room - 1))
    amount := ← r.required? "amount" Document.string?
    condition := ← r.required? "condition" (Condition.read? (room - 1)) }

def Transaction.read? (room : Nat) (d : Document) : Option Transaction := do
  let r ← d.record?
    ["id", "version", "operation", "asset", "metadata", "inputs", "outputs"] room
  return {
    id := ← r.optional? "id" Document.string?
    version := ← r.required? "version" Document.string?
    operation := ← r.required? "operation" (Operation.read? (room - 1))
    asset := ← r.required? "asset" (Asset.read? (room - 1))
    metadata := ← r.optional? "metadata" (Document.value? (room - 1))
    inputs := ← r.required? "inputs" (Document.list? Input.read? (room - 1))
    outputs := ← r.required? "outputs" (Document.list? Output.read? (room - 1)) }

/-- The transaction that a JSON text spells. -/
def Transaction.parse? (text : String) : Option Transaction := do
  Transaction.read? Document.depthLimit (← Document.parse? text)

/-- The JSON text of a transaction. -/
def Transaction.text (t : Transaction) : String := t.toJson.text

end FederatedLedger
