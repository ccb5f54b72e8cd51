import ApiShape.Json.Basic

/-!
# Sources

A source is what a JSON or YAML text says before it is read as anything in particular: scalars,
lists and mappings. It keeps what a reader may ask for later: how a scalar was written, repeated
keys, and the place where the text goes wrong. Reading in the order of the text then meets a value
of the wrong kind and a slip in the text in the order in which they stand.
-/

namespace ApiShape

/-- The value of a scalar. -/
inductive Scalar where
  | null
  | bool (b : Bool)
  | number (n : Number)
  /-- An infinity, or no number. -/
  | nonfinite
  /-- An integer of more than 64 bits. -/
  | wide
  | string (s : String)
  deriving Repr

/-- A scalar, and the text that a text field takes from it, if it can take one. -/
structure Leaf where
  value : Scalar
  written : Option String
  deriving Repr

/-- A string, which is its own text. -/
def Leaf.ofString (s : String) : Leaf :=
  ⟨.string s, some s⟩

/-- A scalar that is not text. -/
def Leaf.plain (value : Scalar) : Leaf :=
  ⟨value, none⟩

/-- What a text says. A list or mapping holds everything up to the place where its text goes wrong,
and `broken` stands there. The items of a positional list may stand for the fields of a record. -/
inductive Source where
  | leaf (l : Leaf)
  | list (positional : Bool) (items : List Source)
  | mapping (entries : List (Leaf × Source))
  /-- A scalar that is well formed but stands for no value. It does no harm where it is ignored. -/
  | unreadable
  | broken
  deriving Repr

/-- Where a value lies in the value around it. -/
inductive Step where
  | key (name : String)
  | index (i : Nat)
  deriving DecidableEq, Repr

/-- Why a text cannot be read as a value of some kind. -/
inductive Fault where
  /-- The text itself is not well formed. -/
  | malformed
  /-- The value at the path is not of the kind that is needed there. -/
  | mismatch (path : List Step)
  deriving DecidableEq, Repr

namespace Fault

/-- The fault of a part, as a fault of the whole. -/
def under (step : Step) : Fault → Fault
  | .malformed => .malformed
  | .mismatch path => .mismatch (step :: path)

/-- The text of a path: keys after a point, positions in brackets, a point alone for the whole. -/
def pathText : List Step → String
  | [] => "."
  | .key name :: rest => name ++ go rest
  | .index i :: rest => "[" ++ toString i ++ "]" ++ go rest
where
  go : List Step → String
    | [] => ""
    | .key name :: rest => "." ++ name ++ go rest
    | .index i :: rest => "[" ++ toString i ++ "]" ++ go rest

end Fault

namespace Source

mutual

/-- The text goes right all through the source. -/
def intact : Source → Bool
  | .leaf _ => true
  | .list _ items => intactItems items
  | .mapping entries => intactEntries entries
  | .unreadable => true
  | .broken => false

/-- Every item is intact. -/
def intactItems : List Source → Bool
  | [] => true
  | s :: rest => intact s && intactItems rest

/-- Every value is intact. -/
def intactEntries : List (Leaf × Source) → Bool
  | [] => true
  | (_, s) :: rest => intact s && intactEntries rest

end

/-- A scalar that keeps only its value: text is taken from strings alone. -/
def settleLeaf (l : Leaf) : Except Fault Leaf :=
  match l.value with
  | .wide => .error (.mismatch [])
  | .string s => .ok (.ofString s)
  | value => .ok (.plain value)

mutual

/-- The source with every scalar fixed to its own type and every list positional, which is how
alternatives are tried. Where the text goes wrong, or a scalar has no type that could be kept, there
is nothing to try. -/
def settle : Source → Except Fault Source
  | .leaf l => (settleLeaf l).map .leaf
  | .list _ items => (settleItems items).map (.list true)
  | .mapping entries => (settleEntries entries).map .mapping
  | .unreadable | .broken => .error .malformed

/-- Items with every scalar fixed to its own type. -/
def settleItems : List Source → Except Fault (List Source)
  | [] => .ok []
  | s :: rest => do return (← settle s) :: (← settleItems rest)

/-- Entries with every scalar fixed to its own type. -/
def settleEntries : List (Leaf × Source) → Except Fault (List (Leaf × Source))
  | [] => .ok []
  | (k, s) :: rest => do return ((← settleLeaf k), (← settle s)) :: (← settleEntries rest)

end

/-- The JSON value of a scalar. What is no finite number becomes null. -/
def scalarJson : Scalar → Except Fault Json
  | .null => .ok .null
  | .bool b => .ok (.bool b)
  | .number n => .ok (.number n)
  | .nonfinite => .ok .null
  | .wide => .error (.mismatch [])
  | .string s => .ok (.string s)

mutual

/-- The JSON value of a source. -/
def json : Source → Except Fault Json
  | .leaf l => scalarJson l.value
  | .list _ items => do return .array (← jsonItems items)
  | .mapping entries => do return .object (Dict.ofList (← jsonEntries entries))
  | .unreadable | .broken => .error .malformed

/-- The JSON values of items. -/
def jsonItems : List Source → Except Fault (List Json)
  | [] => .ok []
  | s :: rest => do return (← json s) :: (← jsonItems rest)

/-- The fields of a mapping, repetitions included. A key must be text. -/
def jsonEntries : List (Leaf × Source) → Except Fault (List (String × Json))
  | [] => .ok []
  | (k, s) :: rest => do
    match k.written with
    | some name => return (name, ← json s) :: (← jsonEntries rest)
    | none => .error (.mismatch [])

end

end Source

end ApiShape
