import FederatedLedger.Config.Validation
import FederatedLedger.Toml.Parser

/-!
# Configuration files

A configuration file is TOML in UTF-8. `Config.load` reads one and checks it.
-/

namespace FederatedLedger

/-- Why a configuration could not be had. -/
inductive ConfigError where
  /-- There is no file. -/
  | missing
  /-- The file is no text. -/
  | notText
  /-- The text is not TOML, or not of the right form. -/
  | malformed
  | invalid (problems : List ConfigProblem)
deriving DecidableEq, Repr

/-- The wording of the error. -/
def ConfigError.message : ConfigError → String
  | .missing => "IO error: No such file or directory (os error 2)"
  | .notText => "IO error: stream did not contain valid UTF-8"
  | .malformed => "Parse error: the file is not a configuration"
  | .invalid problems =>
    "Validation failed: " ++ String.intercalate ", " (problems.map ConfigProblem.message)

namespace Config

/-- A configuration in which nothing is wrong. -/
def check (c : Config) : Except ConfigError Config :=
  if c.isValid then .ok c else .error (.invalid c.problems)

/-- How deep a document may be. TOML limits this by itself, to less. -/
def fileDepth : Nat := UInt32.size

/-- Reads a configuration in TOML. -/
def ofToml? (text : String) : Option Config :=
  (Toml.parse? text).bind (Config.read? .ignored fileDepth)

/-- Reads a configuration in JSON. -/
def ofJson? (text : String) : Option Config :=
  (Document.parse? text).bind (Config.read? .refused Document.depthLimit)

/-- Reads and checks a file with this content, if there is one (`load_config`). -/
def load (content : Option Bytes) : Except ConfigError Config :=
  match content with
  | none => .error .missing
  | some bytes =>
    match Utf8.decode? bytes with
    | none => .error .notText
    | some text =>
      match ofToml? text with
      | none => .error .malformed
      | some c => c.check

end Config
end FederatedLedger
