import FederatedLedger.Ledger.Error

/-!
# Operations and send modes

The two kinds of transaction, and the three points at which a node may answer a submitted one. Both are
named in any ASCII letter case when a person writes them.
-/

namespace FederatedLedger

/-- What a transaction does. -/
inductive Operation where
  | create
  | transfer
deriving DecidableEq, Repr

/-- When a node answers a submitted transaction. -/
inductive SendMode where
  /-- Once it was accepted for processing. -/
  | async
  /-- Once it was checked. -/
  | sync
  /-- Once it was committed. -/
  | commit
deriving DecidableEq, Repr

/-- How the operation is spelled (`Operation::as_str`). -/
def Operation.text : Operation → String
  | .create => "CREATE"
  | .transfer => "TRANSFER"

/-- Reads an operation (`Operation::from_str`). -/
def Operation.parse (s : String) : Except LedgerError Operation :=
  if sameIgnoringCase s "CREATE" then .ok .create
  else if sameIgnoringCase s "TRANSFER" then .ok .transfer
  else .error (.unknownOperation s)

/-- How the mode is spelled in a query (`SendMode::as_query`). -/
def SendMode.text : SendMode → String
  | .async => "async"
  | .sync => "sync"
  | .commit => "commit"

/-- The mode of a submission that names none. -/
def SendMode.standard : SendMode := .commit

/-- Reads a mode (`SendMode::from_str`). -/
def SendMode.parse (s : String) : Except LedgerError SendMode :=
  if sameIgnoringCase s "async" then .ok .async
  else if sameIgnoringCase s "sync" then .ok .sync
  else if sameIgnoringCase s "commit" then .ok .commit
  else .error (.unknownMode s)

theorem Operation.parse_text (o : Operation) : Operation.parse o.text = .ok o := by
  cases o <;> rfl

theorem SendMode.parse_text (m : SendMode) : SendMode.parse m.text = .ok m := by
  cases m <;> rfl

end FederatedLedger
