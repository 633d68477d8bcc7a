import FederatedLedger.Cli.Run

/-!
# The program

The outer layer of the command line: it reads the configuration file and the environment, hands them to
`Invocation.run`, waits as long as the calls take, and prints. No way to reach nodes is built in, so
every attempt of a call fails; commands that need no node work in full.
-/

namespace FederatedLedger

/-- The content of a file, if it can be read. -/
def fileContent (path : String) : IO (Option Bytes) := do
  try
    return some (← IO.FS.readBinFile path).toList
  catch _ =>
    return none

/-- The surroundings of a command line. -/
def surroundingsOf (words : List String) : IO (Surroundings Unit) := do
  let path := (Invocation.parse words).toOption.bind Invocation.config
  let content ← match path with
    | none => pure none
    | some path => fileContent path
  let random ← IO.getRandomBytes 32
  return {
    file := fun p => if some p = path then content else none
    privateKey := ← IO.getEnv keyVariable
    secret := random.toList.foldl (fun n b => 256 * n + b.toNat) 0
    world := { network := Network.unreachable, tick := 1000000, lag := 1, draw := fun n => n }
    network := ()
    turns := UInt64.size }

end FederatedLedger

open FederatedLedger in
/-- Runs a command line: the `main` of `ledger-cli`. -/
def main (words : List String) : IO UInt32 := do
  match Invocation.run (← surroundingsOf words) words with
  | none => return 1
  | some p =>
    IO.sleep (UInt32.ofNat (p.finished.toNat / 1000000))
    IO.print p.output
    IO.eprint p.errors
    return p.exitCode
