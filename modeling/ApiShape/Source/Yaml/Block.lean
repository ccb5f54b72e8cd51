import ApiShape.Source.Yaml.Flow

/-!
# Blocks

Lists and mappings whose structure is shown by indentation. The entries of a block stand in one
column, further right than the block around it. Only the items of a list that is the value of a key
may stand in the column of the key.
-/

namespace ApiShape.Source.Yaml

/-- Reads the value of an entry of a block in some column. The flag allows items in that column. -/
abbrev ValueReader := (column : Nat) → (itemsAllowed : Bool) → Cursor → Parsed Source

/-- The entries of a mapping in a column, from the value of a key on. There are at most `bound`. -/
def blockMapping (read : ValueReader) (readKey : Cursor → Parsed Source) (column : Nat) :
    (bound : Nat) → (key : Leaf) → Cursor → Parsed (List (Leaf × Source))
  | 0, _, _ => none
  | bound + 1, key, c =>
    match read column true c with
    | none => none
    | some (value, c) =>
      let c := c.skip false
      if c.atEnd || c.place.column < column then some ([(key, value)], c)
      else if c.place.column = column && c.place.fresh then
        match readKey c with
        | some (.leaf next, stop) =>
          match c.afterKey? false stop with
          | none => none
          | some c =>
            (blockMapping read readKey column bound next c).map fun (more, c) =>
              ((key, value) :: more, c)
        | _ => none
      else none

/-- The items of a list in a column, from the mark of an item on. There are at most `bound`. If the
column is that of a key, the next key may follow there. -/
def blockList (read : ValueReader) (column : Nat) (sharesColumn : Bool) :
    (bound : Nat) → Cursor → Parsed (List Source)
  | 0, _ => none
  | bound + 1, c =>
    match read column false c.afterItem with
    | none => none
    | some (item, c) =>
      let c := c.skip false
      if c.atEnd || c.place.column < column then some ([item], c)
      else if c.place.column = column && c.place.fresh then
        if c.atItem then
          (blockList read column sharesColumn bound c).map fun (more, c) => (item :: more, c)
        else if sharesColumn then some ([item], c)
        else none
      else none

/-- The block scalar that stands at a place, in a block that is indented by `indent`. -/
def blockScalar? (indent : Int) (c : Cursor) : Option (Parsed Source) :=
  let read (folded : Bool) : Parsed Source :=
    (blockScalar folded indent (c.advance 1)).map fun (cs, c) =>
      (.leaf (.ofString (String.ofList cs)), c)
  match c.text with
  | '|' :: _ => some (read false)
  | '>' :: _ => some (read true)
  | _ => none

/-- The value that follows a place, in a block that is indented by `indent`. What is not indented
further does not belong to it, and a value may be left out. Collections may be nested `depth`
deep. -/
def blockNode : (depth : Nat) → (indent : Int) → (itemsAllowed : Bool) → Cursor → Parsed Source
  | 0, _, _, _ => none
  | depth + 1, indent, itemsAllowed, c =>
    let c := c.skip false
    let column := c.place.column
    let shares : Bool := itemsAllowed && c.atItem && indent = column
    let read : ValueReader := fun column itemsAllowed => blockNode depth column itemsAllowed
    if c.atEnd || (column ≤ indent && !shares) then some (blank, c)
    else if c.atItem then
      if c.place.fresh then
        (blockList read column shares c.text.length c).map fun (items, c) => (.list false items, c)
      else none
    else
      match blockScalar? indent c with
      | some result => result
      | none =>
        match flowNode indent false depth c with
        | none => none
        | some (s, stop) =>
          match if c.place.fresh then c.afterKey? false stop else none, s with
          | none, _ => some (s, stop)
          | some after, .leaf key =>
            (blockMapping read (flowNode column false 0) column c.text.length key after).map
              fun (entries, c) => (.mapping entries, c)
          | some _, _ => none

end ApiShape.Source.Yaml
