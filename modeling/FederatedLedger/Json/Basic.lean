import FederatedLedger.Decimal.Binary64
import FederatedLedger.Entries

/-!
# JSON values

A number is an integer or a double; an object is a list of members in the order in which it is
written. `Json.sorted` puts the members of every object into the order of their keys, which is the
order of their UTF-8 bytes; of two members with one key the later one stays.
-/

namespace FederatedLedger

/-- A JSON number. Integers run from `-2 ^ 63` to `2 ^ 64 - 1`. -/
inductive Number where
  | int (n : Int)
  | float (x : Binary64)
deriving DecidableEq, Repr

/-- A JSON value. -/
inductive Json where
  | null
  | bool (b : Bool)
  | number (n : Number)
  | string (s : String)
  | array (items : List Json)
  | object (members : List (String × Json))
deriving Repr, Inhabited

namespace Json

mutual

/-- The value with the members of every object in the order of their keys (`sorted`). -/
def sorted : Json → Json
  | .array items => .array (sortedItems items)
  | .object members => .object (Entries.ordered (sortedMembers members))
  | v => v

def sortedItems : List Json → List Json
  | [] => []
  | v :: rest => v.sorted :: sortedItems rest

def sortedMembers : List (String × Json) → List (String × Json)
  | [] => []
  | (k, v) :: rest => (k, v.sorted) :: sortedMembers rest

end

mutual

/-- The number of arrays and objects around the innermost value. -/
def depth : Json → Nat
  | .array items => depthItems items + 1
  | .object members => depthMembers members + 1
  | _ => 0

def depthItems : List Json → Nat
  | [] => 0
  | v :: rest => max v.depth (depthItems rest)

def depthMembers : List (String × Json) → Nat
  | [] => 0
  | (_, v) :: rest => max v.depth (depthMembers rest)

end

/-- The value of an optional text. -/
def ofOption (f : α → Json) : Option α → Json
  | none => .null
  | some a => f a

/-- A list of texts as an array. -/
def ofStrings (ss : List String) : Json := .array (ss.map .string)

/-- A natural number. -/
def ofNat (n : Nat) : Json := .number (.int n)

/-- A map from names to texts, as an object. -/
def ofTexts (ms : List (String × String)) : Json := .object (ms.map fun (k, v) => (k, .string v))

end Json
end FederatedLedger
