import FederatedLedger.Json.Basic

/-!
# Documents as written

The tree that a JSON or a TOML text spells: members in the order of the text, repeated keys kept.
Meaning comes second. A text whose escapes leave a surrogate alone and a number that is out of range
are there without a value, so a reader that skips a part asks nothing of it but its syntax, while
`Document.value?` needs every part. Nesting is limited by the `room` that a reader is given: each array
and object takes one.

A structure is read from an object, where unknown members are ignored and no field comes twice, or from
an array of its fields in order. `Document.record?` covers both.
-/

namespace FederatedLedger

/-- A tree as written. A text or number is `none` if it has no value. -/
inductive Document where
  | null
  | bool (b : Bool)
  | number (n : Option Number)
  | string (s : Option String)
  | array (items : List Document)
  | object (members : List (Option String × Document))

/-- The fields of a structure that a document gives, by name. -/
structure Record where
  /-- Whether the fields came by name and not by position. -/
  named : Bool
  fields : List (String × Document)

namespace Document

/-- How many arrays and objects may stand around a value in a JSON text. -/
def depthLimit : Nat := 127

mutual

/-- The value of a document in which at most `room` arrays and objects nest: objects are ordered by
key, and of two members with one key the later one counts. -/
def value? (room : Nat) : Document → Option Json
  | .null => some .null
  | .bool b => some (.bool b)
  | .number n => n.map .number
  | .string s => s.map .string
  | .array items =>
    if room = 0 then none else (itemValues? (room - 1) items).map .array
  | .object members =>
    if room = 0 then none
    else (memberValues? (room - 1) members).map fun ms => .object (Entries.ordered ms)

def itemValues? (room : Nat) : List Document → Option (List Json)
  | [] => some []
  | d :: rest => do
    let v ← d.value? room
    let vs ← itemValues? room rest
    return v :: vs

def memberValues? (room : Nat) : List (Option String × Document) → Option (List (String × Json))
  | [] => some []
  | (k, d) :: rest => do
    let key ← k
    let v ← d.value? room
    let vs ← memberValues? room rest
    return (key, v) :: vs

end

/-- A text. -/
def string? : Document → Option String
  | .string s => s
  | _ => none

/-- A truth value. -/
def bool? : Document → Option Bool
  | .bool b => some b
  | _ => none

/-- A whole number below `bound`, written as an integer. -/
def natural? (bound : Nat) : Document → Option Nat
  | .number (some (.int n)) => if 0 ≤ n ∧ n < bound then some n.toNat else none
  | _ => none

/-- A double, also from an integer. -/
def float? : Document → Option Binary64
  | .number (some (.int n)) => some (Binary64.ofInt n)
  | .number (some (.float x)) => some x
  | _ => none

/-- `null` for nothing, or what `f` reads. -/
def optional? (f : Document → Option α) : Document → Option (Option α)
  | .null => some none
  | d => (f d).map some

/-- An array of what `f` reads; `f` is given the room inside the array. -/
def list? (f : Nat → Document → Option α) (room : Nat) : Document → Option (List α)
  | .array items => if room = 0 then none else items.mapM (f (room - 1))
  | _ => none

/-- An array of texts. -/
def strings? (room : Nat) : Document → Option (List String) :=
  list? (fun _ => string?) room

/-- The members of an object whose keys are all texts. -/
def members? (room : Nat) : Document → Option (List (String × Document))
  | .object members => if room = 0 then none else members.mapM fun (k, d) => k.map (·, d)
  | _ => none

/-- A map from names to texts, ordered by name; of two entries for one name the later one counts. -/
def texts? (room : Nat) (d : Document) : Option (List (String × String)) := do
  let entries ← (← d.members? room).mapM fun (k, v) => v.string?.map (k, ·)
  return Entries.ordered entries

/-- The fields that an object gives, if none of the known names comes twice. -/
def namedRecord? (names : List String) (room : Nat) (d : Document) : Option Record := do
  let members ← d.members? room
  let known := members.filter fun (k, _) => names.contains k
  guard (known.map Prod.fst).Nodup
  return ⟨true, known⟩

/-- The fields of a structure with these field names, from an object or from an array in order. -/
def record? (names : List String) (room : Nat) : Document → Option Record
  | .array items =>
    if room = 0 ∨ names.length < items.length then none else some ⟨false, names.zip items⟩
  | d => d.namedRecord? names room

end Document

namespace Record

/-- A field that must be there. -/
def required? (r : Record) (name : String) (f : Document → Option α) : Option α :=
  (r.fields.lookup name).bind f

/-- A field that may be `null`, and may be absent where fields come by name. -/
def optional? (r : Record) (name : String) (f : Document → Option α) : Option (Option α) :=
  match r.fields.lookup name with
  | some d => d.optional? f
  | none => if r.named then some none else none

/-- A field that has the given value if it is absent. -/
def defaulted? (r : Record) (name : String) (value : α) (f : Document → Option α) : Option α :=
  match r.fields.lookup name with
  | some d => f d
  | none => some value

end Record
end FederatedLedger
