import FederatedLedger.Document

/-!
# Tables under construction

A TOML document builds its tables piece by piece, and each piece may be given once. What may still be added
to a table depends on how it came to be: a header closes it for dotted keys, and a table that only dotted
keys made gets no header. `Items.putPair` and `Items.putSection` say what a document may add.
-/

namespace FederatedLedger
namespace Toml

/-- How a table came to be. -/
inductive Origin where
  /-- By a header of its own. -/
  | header
  /-- By the header of a table inside it. -/
  | implied
  /-- By dotted keys. -/
  | dotted
deriving DecidableEq, Repr

/-- What a key stands for: a value, a table, or a list of tables, latest first. -/
inductive Item where
  | value (d : Document)
  | table (origin : Origin) (items : List (String × Item))
  | tables (latest : List (String × Item)) (earlier : List (List (String × Item)))

/-- What the keys of a table stand for, in order. -/
abbrev Items := List (String × Item)

namespace Items

/-- Puts an item in place of the one with its key. -/
def replace (key : String) (item : Item) (items : Items) : Items :=
  items.map fun e => if e.1 = key then (key, item) else e

/-- Changes the table at a path, and makes the tables on the way that are missing. A path of dotted keys
leads through no table that has a header; any path leads to the latest of several tables. -/
def change (dotted : Bool) (f : Origin → Items → Option Items) :
    List String → Origin → Items → Option Items
  | [], origin, items => f origin items
  | key :: path, _, items =>
    let made := if dotted then Origin.dotted else .implied
    match items.lookup key with
    | none => (change dotted f path made []).map fun inner => items ++ [(key, .table made inner)]
    | some (.table origin inner) =>
      if dotted ∧ origin = .header then none
      else (change dotted f path origin inner).map fun inner =>
        replace key (.table origin inner) items
    | some (.tables latest earlier) =>
      (change dotted f path .header latest).map fun latest => replace key (.tables latest earlier) items
    | some (.value _) => none

/-- Adds an item under a key that is not there yet. -/
def add (key : String) (item : Item) (items : Items) : Option Items :=
  if (items.lookup key).isSome then none else some (items ++ [(key, item)])

/-- Gives a value to a key, or to a path of dotted keys, whose last table then has to be one that dotted
keys made. -/
def putPair (items : Items) (path : List String) (value : Document) : Option Items :=
  match path.reverse with
  | [] => none
  | [key] => add key (.value value) items
  | key :: way =>
    change true (fun origin inner => if origin = .dotted then add key (.value value) inner else none)
      way.reverse .header items

/-- Gives values to several paths. -/
def putPairs (items : Items) (pairs : List (List String × Document)) : Option Items :=
  pairs.foldlM (fun items p => items.putPair p.1 p.2) items

/-- Gives a table its header and its pairs. A table that was only implied keeps what it has. -/
def putTable (key : String) (pairs : List (List String × Document)) (items : Items) : Option Items :=
  match items.lookup key with
  | none => (putPairs [] pairs).map fun inner => items ++ [(key, .table .header inner)]
  | some (.table .implied inner) =>
    (putPairs inner pairs).map fun inner => replace key (.table .header inner) items
  | some _ => none

/-- Adds a table with these pairs to a list of tables. -/
def putElement (key : String) (pairs : List (List String × Document)) (items : Items) : Option Items :=
  match items.lookup key with
  | none => (putPairs [] pairs).map fun inner => items ++ [(key, .tables inner [])]
  | some (.tables latest earlier) =>
    (putPairs [] pairs).map fun inner => replace key (.tables inner (latest :: earlier)) items
  | some _ => none

/-- Adds a section: a header, which may be one of a list, and the pairs below it. -/
def putSection (items : Items) (path : List String) (isElement : Bool)
    (pairs : List (List String × Document)) : Option Items :=
  match path.reverse with
  | [] => none
  | key :: way =>
    change false (fun _ inner => if isElement then putElement key pairs inner else putTable key pairs inner)
      way.reverse .header items

end Items

mutual

/-- An item as a document. -/
def Item.toDocument : Item → Document
  | .value d => d
  | .table _ items => .object (membersOf items)
  | .tables latest earlier => .array (.object (membersOf latest) :: tablesOf earlier).reverse

def membersOf : List (String × Item) → List (Option String × Document)
  | [] => []
  | (key, item) :: rest => (some key, item.toDocument) :: membersOf rest

def tablesOf : List (List (String × Item)) → List Document
  | [] => []
  | items :: rest => .object (membersOf items) :: tablesOf rest

end

end Toml
end FederatedLedger
