import ApiShape.Text.Ranges

/-!
# Places in YAML text

The characters of YAML text, and places in a text. A place knows its line and column, because in
YAML indentation has a meaning, and whether a key or an item may start there.
-/

namespace ApiShape.Source.Yaml

/-- The characters that may stand in a text. -/
def allowed : Text.Ranges :=
  [ (0x09, 0x0A), (0x0D, 0x0D), (0x20, 0x7E), (0x85, 0x85), (0xA0, 0xD7FF), (0xE000, 0xFFFD),
    (0x10000, 0x10FFFF) ]

/-- The text with every line break written as a line feed. The separators of lines and paragraphs
stay as they are. -/
def normalizeBreaks : List Char → List Char
  | [] => []
  | '\r' :: '\n' :: rest => '\n' :: normalizeBreaks rest
  | c :: rest => (if c = '\r' || c = '\x85' then '\n' else c) :: normalizeBreaks rest

/-- A line break. -/
def isBreak (c : Char) : Bool :=
  c = '\n' || c = '\u2028' || c = '\u2029'

/-- A blank within a line. -/
def isBlank (c : Char) : Bool :=
  c = ' ' || c = '\t'

/-- Blank space: a blank or a line break. -/
def isSpace (c : Char) : Bool :=
  isBlank c || isBreak c

/-- The text ends here, or blank space follows. -/
def startsBlank : List Char → Bool
  | [] => true
  | c :: _ => isSpace c

/-- A place in a text. -/
structure Place where
  line : Nat
  column : Nat
  /-- A key or an item of a block may start here: since the last line break, or since the mark of an
  item, there are only blanks. -/
  fresh : Bool
  deriving DecidableEq, Repr

/-- The place after a character. -/
def Place.after (p : Place) (c : Char) : Place :=
  if isBreak c then ⟨p.line + 1, 0, true⟩
  else ⟨p.line, p.column + 1, p.fresh && isBlank c⟩

/-- A place and the text from there on. -/
structure Cursor where
  place : Place
  text : List Char

namespace Cursor

/-- The start of a text. -/
def start (text : List Char) : Cursor :=
  ⟨⟨0, 0, true⟩, text⟩

/-- Moves over some characters. -/
def advance : Nat → Cursor → Cursor
  | n + 1, ⟨p, c :: rest⟩ => advance n ⟨p.after c, rest⟩
  | _, c => c

/-- Moves over the mark of an item, after which a key or another item may start. -/
def afterItem (c : Cursor) : Cursor :=
  let c := c.advance 1
  { c with place.fresh := true }

end Cursor

/-- A line starts here with three dots or dashes, and a document ends or starts with it. -/
def isMarker (p : Place) : List Char → Bool
  | '-' :: '-' :: '-' :: rest => p.column = 0 && startsBlank rest
  | '.' :: '.' :: '.' :: rest => p.column = 0 && startsBlank rest
  | _ => false

/-- The place of the next token. Blanks and comments are passed over, and line breaks too; tabs only
where they do not indent, which is everywhere in a flow collection. -/
def skipFrom (inFlow inComment : Bool) (p : Place) : List Char → Cursor
  | [] => ⟨p, []⟩
  | c :: rest =>
    if isBreak c then skipFrom inFlow false (p.after c) rest
    else if inComment || c = '#' then skipFrom inFlow true (p.after c) rest
    else if c = ' ' || (c = '\t' && (inFlow || !p.fresh)) then
      skipFrom inFlow false (p.after c) rest
    else ⟨p, c :: rest⟩

namespace Cursor

/-- The place of the next token. -/
def skip (inFlow : Bool) (c : Cursor) : Cursor :=
  skipFrom inFlow false c.place c.text

/-- The document ends here, with the text or with a marker. -/
def atEnd (c : Cursor) : Bool :=
  c.text.isEmpty || isMarker c.place c.text

/-- The mark of an item stands here. -/
def atItem (c : Cursor) : Bool :=
  match c.text with
  | '-' :: rest => startsBlank rest
  | _ => false

/-- How far a key and the blanks after it may reach. -/
def maxKeyLength : Nat := 1024

/-- The place after the colon that makes a key of what stands from `c` to `stop`: a key fits into
one line. In a block, blank space follows the colon. -/
def afterKey? (inFlow : Bool) (c stop : Cursor) : Option Cursor :=
  let stop := stop.skip inFlow
  if stop.place.line = c.place.line ∧ stop.place.column ≤ c.place.column + maxKeyLength then
    match stop.text with
    | ':' :: rest => if inFlow || startsBlank rest then some (stop.advance 1) else none
    | _ => none
  else none

end Cursor

end ApiShape.Source.Yaml
