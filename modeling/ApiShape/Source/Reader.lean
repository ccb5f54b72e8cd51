import ApiShape.Source.Basic

/-!
# Reading sources

Readers turn a source into a value of some kind, or say what is wrong with it first in the order of
the text. The fields of a record are read one by one and put together; of several faults the one
that comes first in the text counts.
-/

namespace ApiShape

/-- Reads a value of some kind. -/
abbrev Reader (α : Type) := Source → Except Fault α

namespace Source

/-- The source is null. -/
def isNull : Source → Bool
  | .leaf ⟨.null, _⟩ => true
  | _ => false

/-- The source is a value that is not even written, which can stand for an empty container. -/
def isBlank : Source → Bool
  | .leaf ⟨.null, some ""⟩ => true
  | _ => false

end Source

namespace Reader

/-- The source is of another kind. -/
def mismatch : Except Fault α :=
  .error (.mismatch [])

/-- The fault of a part at a step, as a fault of the whole. -/
def within (step : Step) (r : Except Fault α) : Except Fault α :=
  r.mapError (Fault.under step)

/-- Reads a scalar. -/
def leafReader (read : Leaf → Except Fault α) : Reader α
  | .leaf l => read l
  | .unreadable | .broken => .error .malformed
  | .list _ _ | .mapping _ => mismatch

/-- Reads a text. -/
def text : Reader String :=
  leafReader fun l =>
    match l.written with
    | some s => .ok s
    | none => mismatch

/-- Reads any JSON value. -/
def json : Reader Json :=
  Source.json

/-- Reads a truth value. -/
def flag : Reader Bool :=
  leafReader fun l =>
    match l.value with
    | .bool b => .ok b
    | _ => mismatch

/-- Reads a number. -/
def number : Reader Number :=
  leafReader fun l =>
    match l.value with
    | .number n => .ok n
    | _ => mismatch

/-- Reads a natural number of 64 bits. -/
def nat : Reader Nat :=
  leafReader fun l =>
    match l.value with
    | .number n =>
      match n.nat? with
      | some n => .ok n
      | none => mismatch
    | _ => mismatch

/-- Reads a value that null stands for the absence of. -/
def optional (read : Reader α) : Reader (Option α) := fun s =>
  if s.isNull then .ok none else (read s).map some

/-- Reads items from a position on. -/
def readItems (read : Reader α) : (position : Nat) → List Source → Except Fault (List α)
  | _, [] => .ok []
  | i, s :: rest => do
    return (← within (.index i) (read s)) :: (← readItems read (i + 1) rest)

/-- Reads a list. -/
def list (read : Reader α) : Reader (List α)
  | .list _ items => readItems read 0 items
  | .unreadable | .broken => .error .malformed
  | s => if s.isBlank then .ok [] else mismatch

/-- Reads the entries of a mapping. A key must be text. -/
def readEntries (read : Reader α) : List (Leaf × Source) → Except Fault (List (String × α))
  | [] => .ok []
  | (k, s) :: rest =>
    match k.written with
    | some name => do
      return (name, ← within (.key name) (read s)) :: (← readEntries read rest)
    | none => mismatch

/-- Reads a dictionary. -/
def dict (read : Reader α) : Reader (Dict α)
  | .mapping entries => (readEntries read entries).map Dict.ofList
  | .unreadable | .broken => .error .malformed
  | s => if s.isBlank then .ok [] else mismatch

/-- Reads one of some named choices: its name, or a mapping of its name to null. -/
def choice (name : α → String) (choices : List α) : Reader α
  | .leaf ⟨.string s, _⟩ =>
    match choices.find? (name · = s) with
    | some a => .ok a
    | none => mismatch
  | .mapping ((k, value) :: rest) =>
    match k.written.bind fun s => choices.find? (name · = s) with
    | none =>
      match k.written, value with
      | some "", .broken => .error .malformed
      | _, _ => mismatch
    | some a =>
      match value, rest with
      | .leaf ⟨.null, none⟩, [] => .ok a
      | .leaf ⟨.null, none⟩, _ => .error .malformed
      | .unreadable, _ | .broken, _ => .error .malformed
      | _, _ => within (.key (name a)) mismatch
  | _ => .error .malformed

/-- A field of a record in the text. -/
structure Field where
  step : Step
  name : String
  source : Source

/-- The fields that a source gives for a record, in the order of the text. -/
structure Record where
  fields : List Field
  /-- The names that mean something, in their order. -/
  names : List String
  /-- The source is a list with more items than there are names. -/
  surplus : Bool

/-- The name that a key stands for: its text, or else the name at the position that it counts. What
counts too far stands for no name. -/
def fieldName? (names : List String) (key : Leaf) : Option String :=
  match key.written with
  | some s => some s
  | none =>
    match key.value with
    | .number n => n.nat?.map fun i => names[i]?.getD ""
    | _ => none

/-- The fields of a mapping. -/
def mappingFields (names : List String) : List (Leaf × Source) → Option (List Field)
  | [] => some []
  | (k, s) :: rest => do
    let name ← fieldName? names k
    return ⟨.key name, name, s⟩ :: (← mappingFields names rest)

/-- The fields of a list, which stand in the order of the names. -/
def listFields : (position : Nat) → List String → List Source → List Field
  | i, name :: names, s :: rest => ⟨.index i, name, s⟩ :: listFields (i + 1) names rest
  | _, _, _ => []

/-- The record of a source. -/
def recordOf (names : List String) : Reader Record
  | .mapping entries =>
    match mappingFields names entries with
    | some fields => .ok ⟨fields, names, false⟩
    | none => mismatch
  | .list true items => .ok ⟨listFields 0 names items, names, names.length < items.length⟩
  | .unreadable | .broken => .error .malformed
  | s => if s.isBlank then .ok ⟨[], names, false⟩ else mismatch

/-- What is read from the fields of a record: a value, or the position in the text and the fault of
the first thing that is wrong. -/
def Reading (α : Type) := Except (Nat × Fault) α

namespace Reading

/-- Puts two readings together. The fault that comes first in the text stays. -/
def both (f : Reading (α → β)) (a : Reading α) : Reading β :=
  match f, a with
  | .ok f, .ok a => .ok (f a)
  | .error e, .ok _ => .error e
  | .ok _, .error e => .error e
  | .error (i, e), .error (j, e') => if i ≤ j then .error (i, e) else .error (j, e')

instance : Applicative Reading where
  pure a := Except.ok a
  seq f a := both f (a ())

/-- The reading without the position of its fault. -/
def run (r : Reading α) : Except Fault α :=
  match r with
  | .ok a => .ok a
  | .error (_, e) => .error e

end Reading

namespace Record

/-- The first field of a name, and its position in the text. -/
def find? (r : Record) (name : String) : Option (Nat × Field) :=
  (r.fields.findIdx? (·.name = name)).bind fun i => (r.fields[i]?).map (i, ·)

/-- Reads a field that is found at a position. -/
def readAt (read : Reader α) (found : Nat × Field) : Reading α :=
  match read found.2.source with
  | .ok a => .ok a
  | .error e => .error (found.1, e.under found.2.step)

/-- Reads a field that has a value when it is absent. -/
def field (r : Record) (name : String) (read : Reader α) (absent : α) : Reading α :=
  match r.find? name with
  | some found => readAt read found
  | none => .ok absent

/-- Reads a field that must be there. -/
def required (r : Record) (name : String) (read : Reader α) : Reading α :=
  match r.find? name with
  | some found => readAt read found
  | none => .error (r.fields.length, .mismatch [])

/-- Reads a field that may be absent or null. -/
def optional (r : Record) (name : String) (read : Reader α) : Reading (Option α) :=
  r.field name (Reader.optional read) none

/-- The first of the fields from a position on that is wrong whatever is read from the record: a
known name that is repeated, or an unknown field whose text goes wrong. -/
def firstFault (names : List String) : (seen : List String) → Nat → List Field → Reading Unit
  | _, _, [] => .ok ()
  | seen, i, f :: rest =>
    if names.contains f.name then
      if seen.contains f.name then .error (i, .mismatch [])
      else firstFault names (f.name :: seen) (i + 1) rest
    else if f.source.intact then firstFault names seen (i + 1) rest
    else .error (i, .malformed)

/-- The record has no fault of its own. -/
def checked (r : Record) : Reading Unit :=
  match firstFault r.names [] 0 r.fields with
  | .ok () => if r.surplus then .error (r.fields.length, .malformed) else .ok ()
  | .error e => .error e

/-- The text of a source goes right, and all its scalars stand for values. -/
def isReadable (s : Source) : Bool :=
  match s.settle with
  | .error .malformed => false
  | _ => true

/-- The JSON values of the fields that mean nothing to the record. One whose text cannot be read is
wrong in its place; where only a scalar has no JSON value, the whole record is wrong. -/
def extensions (r : Record) : Reading (Dict Json) :=
  let isUnknown (f : Field) : Bool := !r.names.contains f.name
  match r.fields.findIdx? fun f => isUnknown f && !isReadable f.source with
  | some i => .error (i, .malformed)
  | none =>
    let values := (r.fields.filter isUnknown).mapM fun f => do
      return (f.name, ← (← f.source.settle).json)
    match values with
    | .ok entries => .ok (Dict.ofList entries)
    | .error _ => .error (r.fields.length, .mismatch [])

end Record

/-- Reads the fields of a record, and checks the record as a whole. -/
def Record.read (read : Record → Reading α) (r : Record) : Except Fault α :=
  Reading.run ((fun a _ => a) <$> read r <*> r.checked)

/-- Reads a record with some names, from a mapping or from a positional list in their order. -/
def record (names : List String) (read : Record → Reading α) : Reader α := fun s => do
  (← recordOf names s).read read

/-- Reads a record that keeps the fields that it does not know. Only a mapping can be one. -/
def openRecord (names : List String) (read : Record → Reading α) : Reader α
  | .list _ _ => mismatch
  | s => record names read s

end Reader

end ApiShape
