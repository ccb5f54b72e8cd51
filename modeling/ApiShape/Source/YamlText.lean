import ApiShape.Source.Yaml.Block

/-!
# Sources from YAML text

A YAML text holds one document, which is a value. Markers may stand in front of it and after it.
Anchors, aliases, tags, directives and keys that are no scalars are not known here: a text with one
of them has no source.
-/

namespace ApiShape.Source

namespace Yaml

/-- How deep collections may be nested in YAML text. -/
def maxDepth : Nat := 128

/-- Nothing follows but markers of the end of the document, of which there are at most `bound`. -/
def endsDocument : (bound : Nat) → Cursor → Bool
  | 0, _ => false
  | bound + 1, c =>
    let c := c.skip false
    match c.text with
    | [] => true
    | head :: _ => head = '.' && isMarker c.place c.text && endsDocument bound (c.advance 3)

/-- The text without the mark of its encoding. -/
def withoutMark : List Char → List Char
  | '\uFEFF' :: rest => rest
  | cs => cs

end Yaml

open Yaml

/-- What a YAML text says. A text without a value says a blank one. -/
def ofYaml? (text : String) : Option Source :=
  let cs := normalizeBreaks (withoutMark text.toList)
  if cs.all allowed.has then
    let c := (Cursor.start cs).skip false
    let c := if c.text.head? = some '-' && isMarker c.place c.text then c.advance 3 else c
    if c.text.head? = some '.' && isMarker c.place c.text then none
    else
      match blockNode (Yaml.maxDepth + 1) (-1) false c with
      | some (s, c) => if endsDocument (cs.length + 1) c then some s else none
      | none => none
  else none

end ApiShape.Source
