import FederatedLedger.Ledger.Prepare
import FederatedLedger.Ledger.Keypair

/-!
# Signing transactions

Every input gets one signature for each of its owners, in their order. What is signed is the canonical
text of the transaction without id and signatures, followed by the output that the input spends. The id
of a signed transaction covers its signatures.
-/

namespace FederatedLedger
namespace Transaction

/-- What every signature of the transaction covers (`unsigned_message`). -/
def message (t : Transaction) : String := t.unsigned.toJson.canonicalText

/-- What the signatures of an input cover: the message, and the output that the input spends. -/
def payload (message : String) (i : Input) : String :=
  match i.fulfills with
  | none => message
  | some link => message ++ link.transactionId ++ toString link.outputIndex.toNat

/-- The signature for an owner, by the first key that owns it. -/
def signatureFor (keys : List Keypair) (payload owner : String) : Except LedgerError String :=
  match keys.find? (·.owns owner) with
  | none => .error (.missingSigningKey owner)
  | some k => match k.sign? (utf8 payload) with
    | none => .error .signing
    | some signature => .ok signature

/-- The signatures for some owners, in order. -/
def signaturesFor (keys : List Keypair) (payload : String) : List String → Except LedgerError (List String)
  | [] => .ok []
  | owner :: rest => do
    let signature ← signatureFor keys payload owner
    let signatures ← signaturesFor keys payload rest
    return signature :: signatures

/-- The inputs with their signatures. -/
def signedInputs (keys : List Keypair) (message : String) : List Input → Except LedgerError (List Input)
  | [] => .ok []
  | i :: rest => do
    let signatures ← signaturesFor keys (payload message i) i.ownersBefore
    let inputs ← signedInputs keys message rest
    return { i with fulfillment := some (String.join signatures) } :: inputs

/-- The transaction with the id that covers its signatures. -/
def withSignedId (t : Transaction) : Transaction :=
  { t with id := some { t with id := none }.toJson.digest }

/-- Signs every input with the keys of its owners (`sign_transaction`). -/
def sign (t : Transaction) (keys : List Keypair) : Except LedgerError Transaction :=
  if keys.isEmpty then .error .noKeys
  else do
    let inputs ← signedInputs keys t.message t.inputs
    return withSignedId { t with inputs }

/-- Reads private keys, up to the first that is none. -/
def readKeys : List String → Except LedgerError (List Keypair)
  | [] => .ok []
  | text :: rest => do
    let k ← Keypair.read text
    let ks ← readKeys rest
    return k :: ks

/-- Signs every input with keys that are given as texts (`fulfill_transaction`). -/
def fulfill (t : Transaction) (privateKeys : List String) : Except LedgerError Transaction := do
  t.sign (← readKeys privateKeys)

end Transaction
end FederatedLedger
