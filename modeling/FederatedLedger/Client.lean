import FederatedLedger.Ledger.Transaction
import FederatedLedger.Request
import FederatedLedger.Config.Basic
import FederatedLedger.Transport.Basic

/-!
# The client of a federation

The questions that a node answers are requests (`Api.request`); texts in a path stand there as they are. A client is a
transport to the nodes that were named, in their order, and `Client.ask` puts a question to whichever node answers.

| question | operation |
| --- | --- |
| `info`, `apiInfo` | `LedgerClient::info`, `LedgerClient::api_info` |
| `transactions`, `submit` | `TransactionsEndpoint::get`, `TransactionsEndpoint::send` |
| `transaction`, `status` | `TransactionsEndpoint::retrieve`, `TransactionsEndpoint::status` |
| `outputs` | `OutputsEndpoint::get` |
| `blocksOf`, `block` | `BlocksEndpoint::get`, `BlocksEndpoint::retrieve` |
| `assets`, `metadata` | `AssetsEndpoint::get`, `MetadataEndpoint::get` |
-/

namespace FederatedLedger

/-! ## The interface of a node -/

/-- A question to a node. -/
inductive Api where
  /-- The version of the node, and links. -/
  | info
  /-- The description of the interface. -/
  | apiInfo
  /-- The transactions of an asset. -/
  | transactions (assetId : String) (operation : Option Operation)
  /-- The submission of a signed transaction. -/
  | submit (transaction : Transaction) (mode : SendMode)
  | transaction (id : String)
  /-- How far a submitted transaction has come. -/
  | status (transactionId : String)
  /-- The outputs of the owner of a key; all of them, or those that are spent or not. -/
  | outputs (publicKey : String) (spent : Option Bool)
  /-- The heights of the blocks that hold a transaction. -/
  | blocksOf (transactionId : String)
  | block (height : UInt64)
  /-- The assets that hold a text. -/
  | assets (search : String) (limit : Option UInt32)
  /-- The metadata that hold a text. -/
  | metadata (search : String) (limit : Option UInt32)

namespace Api

/-- The path under which all but the greeting of a node is found. -/
def root : String := "/api/v1"

/-- The path of a collection (`Scope::collection`). -/
def collection (name : String) : String := root ++ "/" ++ name ++ "/"

/-- The path of a member of a collection (`Scope::member`). -/
def member (name id : String) : String := collection name ++ id

/-- A search in a collection (`AssetsEndpoint::get`, `MetadataEndpoint::get`). -/
def search (name text : String) (limit : Option UInt32) : Request :=
  ((Request.get.withPath (collection name)).withParam "search" text).withParam? "limit"
    (limit.map fun n => toString n.toNat)

/-- The request for a question. -/
def request : Api → Request
  | .info => Request.get.withPath "/"
  | .apiInfo => Request.get.withPath root
  | .transactions assetId operation =>
    ((Request.get.withPath (collection "transactions")).withParam "asset_id" assetId).withParam?
      "operation" (operation.map Operation.text)
  | .submit t mode =>
    ((Request.post.withPath (collection "transactions")).withParam "mode" mode.text).withBody
      t.toJson.sorted
  | .transaction id => Request.get.withPath (member "transactions" id)
  | .status id => (Request.get.withPath (root ++ "/statuses")).withParam "tx_id" id
  | .outputs publicKey spent =>
    ((Request.get.withPath (collection "outputs")).withParam "public_key" publicKey).withParam?
      "spent" (spent.map fun b => if b then "true" else "false")
  | .blocksOf id => (Request.get.withPath (collection "blocks")).withParam "transaction_id" id
  | .block height => Request.get.withPath (member "blocks" (toString height.toNat))
  | .assets text limit => search "assets" text limit
  | .metadata text limit => search "metadata" text limit

end Api

/-! ## Clients -/

/-- A client of the nodes of a federation. -/
structure Client where
  transport : Transport

/-- The client after a call. -/
def Outcome.client (o : Outcome σ) : Client := ⟨o.transport⟩

namespace Client

/-- A client of the nodes that are meant, with headers for all of them, and what it logs
(`LedgerClient::with_options`). -/
def ofSpecs (specs : List NodeSpec) (headers : Headers) (options : TransportOptions) :
    Except TransportError (Client × Report) := do
  let nodes ← (Node.ofSpecs specs headers).mapError .node
  let (transport, report) ← Transport.ofNodes nodes options
  return (⟨transport⟩, report.log (.clientReady (nodes.map Node.endpoint)))

/-- The client that a configuration describes (`LedgerClient::from_config`). -/
def ofConfig (c : Config) : Except TransportError (Client × Report) := ofSpecs c.nodes c.headers c.options

/-- Sends a request. -/
def forward (c : Client) (w : World σ) (turns : Nat) (request : Request) (now : Instant) (network : σ) :
    Option (Outcome σ) :=
  c.transport.forward w turns request now network

/-- Puts a question, with headers for this call (`Scope::send`). -/
def ask (c : Client) (w : World σ) (turns : Nat) (question : Api) (headers : Headers) (now : Instant)
    (network : σ) : Option (Outcome σ) :=
  c.forward w turns (question.request.withHeaders headers) now network

end Client

end FederatedLedger
