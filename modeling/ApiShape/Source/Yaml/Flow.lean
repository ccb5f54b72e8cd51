import ApiShape.Source.Yaml.PlainValue
import ApiShape.Source.Yaml.ScalarText

/-!
# Flow collections

Scalars, lists in brackets and mappings in braces. Within brackets and braces indentation has no
meaning. A pair in brackets stands for a mapping of its own. A key is a scalar.
-/

namespace ApiShape.Source.Yaml

/-- What was read, and the place after it. -/
abbrev Parsed (α : Type) := Option (α × Cursor)

/-- A value that is not written. -/
def blank : Source :=
  .leaf (.ofPlain [])

/-- The plain or quoted scalar that stands at a place, in a block that is indented by `indent`. -/
def scalar (inFlow : Bool) (indent : Int) (c : Cursor) : Parsed Source :=
  let quoted (s : Scanned) : Parsed Source :=
    s.map fun (cs, c) => (.leaf (.ofString (String.ofList cs)), c)
  match c.text with
  | '\'' :: rest => quoted (singleQuotedFrom [] (c.place.after '\'') rest)
  | '"' :: rest => quoted (doubleQuotedFrom (.gap false []) (c.place.after '"') rest)
  | cs =>
    if startsPlain inFlow cs && !isMarker c.place cs then
      (plainFrom inFlow indent [] c.place cs).map fun (cs, c) => (.leaf (.ofPlain cs), c)
    else none

/-- The value after the colon of a key. It may be left out. -/
def flowValue (read : Cursor → Parsed Source) (close : Char) (c : Cursor) : Parsed Source :=
  let c := c.skip true
  match c.text with
  | [] => none
  | head :: _ => if head = ',' || head = close then some (blank, c) else read c

/-- What stands at a place in a flow collection: a value, or a key with its value. -/
def flowEntry (read : Cursor → Parsed Source) (close : Char) (c : Cursor) :
    Parsed (Source × Option Source) :=
  match read c with
  | none => none
  | some (s, stop) =>
    match c.afterKey? true stop with
    | some c => (flowValue read close c).map fun (value, c) => ((s, some value), c)
    | none => some ((s, none), stop)

/-- The entries of a flow collection up to its closing bracket, of which there are at most `bound`.
A comma may follow the last. -/
def flowEntries (read : Cursor → Parsed Source) (close : Char) :
    (bound : Nat) → Cursor → Parsed (List (Source × Option Source))
  | 0, _ => none
  | bound + 1, c =>
    let c := c.skip true
    if c.text.head? = some close then some ([], c.advance 1)
    else
      match flowEntry read close c with
      | none => none
      | some (entry, c) =>
        let c := c.skip true
        if c.text.head? = some close then some ([entry], c.advance 1)
        else if c.text.head? = some ',' then
          (flowEntries read close bound (c.advance 1)).map fun (more, c) => (entry :: more, c)
        else none

/-- An entry of a mapping. A key without a value has a blank one. -/
def mappingEntry? : Source × Option Source → Option (Leaf × Source)
  | (.leaf key, value) => some (key, value.getD blank)
  | _ => none

/-- An item of a list. A key with its value is a mapping. -/
def listItem? : Source × Option Source → Option Source
  | (item, none) => some item
  | (.leaf key, some value) => some (.mapping [(key, value)])
  | _ => none

/-- The scalar or flow collection that stands at a place, in a block that is indented by `indent`.
Collections may be nested `depth` deep. -/
def flowNode (indent : Int) : (inFlow : Bool) → (depth : Nat) → Cursor → Parsed Source
  | inFlow, 0, c => scalar inFlow indent c
  | inFlow, depth + 1, c =>
    match c.text with
    | '[' :: rest =>
      match flowEntries (flowNode indent true depth) ']' (rest.length + 1) (c.advance 1) with
      | none => none
      | some (entries, c) => (entries.mapM listItem?).map fun items => (.list false items, c)
    | '\x7b' :: rest =>
      match flowEntries (flowNode indent true depth) '\x7d' (rest.length + 1) (c.advance 1) with
      | none => none
      | some (entries, c) => (entries.mapM mappingEntry?).map fun entries => (.mapping entries, c)
    | _ => scalar inFlow indent c

end ApiShape.Source.Yaml
