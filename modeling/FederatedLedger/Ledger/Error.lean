import FederatedLedger.Ledger.Keypair

/-!
# Errors of the ledger

The causes for which building or signing a transaction fails, and the wording of each.
-/

namespace FederatedLedger

/-- Why a transaction cannot be built or signed. -/
inductive LedgerError where
  /-- A CREATE that nobody issues. -/
  | missingSigners
  /-- A TRANSFER that spends nothing. -/
  | missingInputs
  /-- A TRANSFER to nobody, or an output that nobody owns. -/
  | missingRecipients
  /-- An input that names no output of an earlier transaction. -/
  | invalidInput (index : Nat)
  /-- A CREATE of an asset that exists. -/
  | createOfLink
  /-- A TRANSFER that does not say of which asset. -/
  | transferOfData
  | zeroAmount (index : Nat)
  | unknownOperation (text : String)
  | unknownMode (text : String)
  /-- No key was given for this owner of an input. -/
  | missingSigningKey (owner : String)
  /-- No keys were given at all. -/
  | noKeys
  /-- The environment holds no key. -/
  | noKeyInEnvironment
  | invalidPrivateKey (cause : KeyError)
  /-- The signature of a digest came out degenerate. -/
  | signing
deriving DecidableEq, Repr

/-- The environment variable that holds the signing key (`PRIVATE_KEY_ENV_VAR`). -/
def keyVariable : String := "LEDGER_PRIVATE_KEY"

/-- The wording of a ledger error. -/
def LedgerError.message : LedgerError → String
  | .missingSigners => "at least one signer is required"
  | .missingInputs => "TRANSFER requires at least one input"
  | .missingRecipients => "TRANSFER requires at least one recipient"
  | .invalidInput index => "input " ++ toString index ++ " does not reference a previous output"
  | .createOfLink => "invalid asset: CREATE takes asset data, not an asset id"
  | .transferOfData =>
    "invalid asset: TRANSFER requires the id of the asset being transferred"
  | .zeroAmount index => "recipient " ++ toString index ++ " has a zero amount"
  | .unknownOperation text =>
    "unknown operation '" ++ text ++ "', expected CREATE or TRANSFER"
  | .unknownMode text =>
    "unknown send mode '" ++ text ++ "', expected async, sync or commit"
  | .missingSigningKey owner => "no private key supplied for owner " ++ owner
  | .noKeys => "keypair not found: no private keys supplied"
  | .noKeyInEnvironment =>
    "keypair not found: environment variable " ++ keyVariable ++ " not set"
  | .invalidPrivateKey cause => "invalid private key: " ++ cause.message
  | .signing => "signing failed: signature error"

/-- Reads a private key, with the error of the ledger (`Keypair::from_private_key`). -/
def Keypair.read (text : String) : Except LedgerError Keypair :=
  (Keypair.parse text).mapError .invalidPrivateKey

/-- Reads the private key that the environment holds (`Keypair::from_env`). -/
def Keypair.ofEnvironment : Option String → Except LedgerError Keypair
  | none => .error .noKeyInEnvironment
  | some text => Keypair.read text

end FederatedLedger
