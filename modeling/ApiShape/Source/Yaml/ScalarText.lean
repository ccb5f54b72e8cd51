import ApiShape.Source.Yaml.Place
import ApiShape.Text.Hexadecimal

/-!
# The text of YAML scalars

A scalar is written plain, between quotes, or as a block of lines. Where it goes on over a line
break, the break is folded into a space, and further breaks are kept; a literal block keeps all.
-/

namespace ApiShape.Source.Yaml

/-- The text of a scalar, and the place after it. -/
abbrev Scanned := Option (List Char × Cursor)

/-- Text in front of what was read. -/
def Scanned.prepend (cs : List Char) (s : Scanned) : Scanned :=
  s.map fun (more, c) => (cs ++ more, c)

/-- What the first of some line breaks and the others stand for when they are folded. The
separators of lines and paragraphs are kept. -/
def foldBreaks (first : Char) (more : List Char) : List Char :=
  if first = '\n' then if more = [] then [' '] else more else first :: more

/-- What blank space within a scalar stands for: on one line, itself. -/
def foldGap (gap : List Char) : List Char :=
  match gap.filter isBreak with
  | [] => gap
  | first :: more => foldBreaks first more

/-! ## Plain scalars -/

/-- A character that cannot start a plain scalar whatever follows. -/
def isIndicator (c : Char) : Bool :=
  ",[]\x7b\x7d#&*!|>'\"%@\x60".toList.contains c

/-- A bracket or comma of a flow collection. -/
def isFlowMark (c : Char) : Bool :=
  ",[]\x7b\x7d".toList.contains c

/-- A plain scalar starts here. Dashes, question marks and colons start one only in front of
something else than blank space, and the latter two only in a block. -/
def startsPlain (inFlow : Bool) : List Char → Bool
  | [] => false
  | '-' :: rest => !startsBlank rest
  | '?' :: rest => !inFlow && !startsBlank rest
  | ':' :: rest => !inFlow && !startsBlank rest
  | c :: _ => !isSpace c && !isIndicator c

/-- A colon in front of a mark of a flow collection, where it can neither belong to a plain scalar
nor end it. -/
def isStrayColon : List Char → Bool
  | ':' :: c :: _ => isFlowMark c || c = '?'
  | _ => false

/-- A plain scalar ends in front of this text: with the colon of a key, or in a flow collection with
one of its marks. -/
def endsPlain (inFlow : Bool) : List Char → Bool
  | ':' :: rest => startsBlank rest
  | c :: _ => inFlow && isFlowMark c
  | [] => true

/-- The text of a plain scalar, of which the blank space right before is `gap`. In a block, every
further line must be indented more than `indent`. Blank space at the end is passed over. -/
def plainFrom (inFlow : Bool) (indent : Int) (gap : List Char) (p : Place) : List Char → Scanned
  | [] => some ([], ⟨p, []⟩)
  | c :: rest =>
    let indented : Bool := indent < p.column
    if isSpace c then
      if c = '\t' && gap.any isBreak && !indented then none
      else plainFrom inFlow indent (gap ++ [c]) (p.after c) rest
    else if gap ≠ [] && ((!inFlow && !indented) || isMarker p (c :: rest) || c = '#') then
      some ([], ⟨p, c :: rest⟩)
    else if inFlow && isStrayColon (c :: rest) then none
    else if endsPlain inFlow (c :: rest) then some ([], ⟨p, c :: rest⟩)
    else (plainFrom inFlow indent [] (p.after c) rest).prepend (foldGap gap ++ [c])

/-! ## Quoted scalars -/

/-- The text of a scalar between single quotes, of which the blank space right before is `gap`. A
quote inside is written twice. -/
def singleQuotedFrom (gap : List Char) (p : Place) : List Char → Scanned
  | [] => none
  | '\'' :: '\'' :: rest =>
    (singleQuotedFrom [] ((p.after '\'').after '\'') rest).prepend (foldGap gap ++ ['\''])
  | '\'' :: rest => some (foldGap gap, ⟨p.after '\'', rest⟩)
  | c :: rest =>
    if isMarker p (c :: rest) then none
    else if isSpace c then singleQuotedFrom (gap ++ [c]) (p.after c) rest
    else (singleQuotedFrom [] (p.after c) rest).prepend (foldGap gap ++ [c])

/-- What has been read of a scalar between double quotes and still depends on what follows. -/
inductive Pending where
  /-- Blank space. After an escaped line break only further breaks count. -/
  | gap (escaped : Bool) (space : List Char)
  /-- A backslash. -/
  | backslash
  /-- The start of a code point, of which `owed` digits are missing. -/
  | code (owed : Nat) (value : Nat)

/-- What blank space between double quotes stands for. -/
def Pending.gapText (escaped : Bool) (space : List Char) : List Char :=
  if escaped then space.filter isBreak else foldGap space

/-- How many digits follow a letter after a backslash that writes a code point. -/
def codeLength? (c : Char) : Option Nat :=
  if c = 'x' then some 2
  else if c = 'u' then some 4
  else if c = 'U' then some 8
  else none

/-- The characters that other characters after a backslash stand for. -/
def escapes : List (Char × Char) :=
  [ ('0', '\x00'), ('a', '\x07'), ('b', '\x08'), ('t', '\t'), ('\t', '\t'), ('n', '\n'),
    ('v', '\x0b'), ('f', '\x0c'), ('r', '\r'), ('e', '\x1b'), (' ', ' '), ('"', '"'), ('/', '/'),
    ('\\', '\\'), ('N', '\x85'), ('_', '\xa0'), ('L', '\u2028'), ('P', '\u2029') ]

/-- The text of a scalar between double quotes. -/
def doubleQuotedFrom (pending : Pending) (p : Place) : List Char → Scanned
  | [] => none
  | c :: rest =>
    let next := p.after c
    match pending with
    | .gap escaped space =>
      let before := Pending.gapText escaped space
      if isMarker p (c :: rest) then none
      else if isSpace c then doubleQuotedFrom (.gap escaped (space ++ [c])) next rest
      else if c = '"' then some (before, ⟨next, rest⟩)
      else if c = '\\' then (doubleQuotedFrom .backslash next rest).prepend before
      else (doubleQuotedFrom (.gap false []) next rest).prepend (before ++ [c])
    | .backslash =>
      if isBreak c then doubleQuotedFrom (.gap true []) next rest
      else
        match codeLength? c, escapes.lookup c with
        | some n, _ => doubleQuotedFrom (.code n 0) next rest
        | none, some e => (doubleQuotedFrom (.gap false []) next rest).prepend [e]
        | none, none => none
    | .code owed value =>
      match Text.hexDigit? c with
      | none => none
      | some d =>
        let value := value * 16 + d
        if 1 < owed then doubleQuotedFrom (.code (owed - 1) value) next rest
        else
          match Text.charOfCode? value with
          | some e => (doubleQuotedFrom (.gap false []) next rest).prepend [e]
          | none => none

/-! ## Blocks of lines -/

/-- A line without its break, and the break, if it has one. -/
structure Line where
  chars : List Char
  ending : List Char

/-- The lines of a text. -/
def lines : List Char → List Line
  | [] => []
  | c :: rest =>
    if isBreak c then ⟨[], [c]⟩ :: lines rest
    else
      match lines rest with
      | [] => [⟨[c], []⟩]
      | l :: more => { l with chars := c :: l.chars } :: more

/-- What becomes of the line breaks at the end of a block. -/
inductive Chomping where
  | strip
  | clip
  | keep
  deriving DecidableEq, Repr

/-- How a block is written. -/
structure BlockStyle where
  folded : Bool
  chomping : Chomping
  /-- How much deeper than the block around it, unless the first line shows it. -/
  deeper : Option Nat

/-- The line breaks that follow a line of a block, in the lines read so far. -/
structure BlockTail where
  /-- The break at the end of the last line that is not empty. -/
  first : List Char
  /-- The breaks of the empty lines after it. -/
  more : List Char
  /-- That last line starts with a blank. -/
  inset : Bool

/-- What the breaks between two lines stand for. They are folded if neither line is inset. -/
def BlockStyle.between (style : BlockStyle) (tail : BlockTail) (inset : Bool) : List Char :=
  match tail.first with
  | [first] =>
    if style.folded && !tail.inset && !inset then foldBreaks first tail.more
    else first :: tail.more
  | first => first ++ tail.more

/-- What the breaks at the end of a block stand for. -/
def BlockStyle.ending (style : BlockStyle) (tail : BlockTail) : List Char :=
  match style.chomping with
  | .strip => []
  | .clip => tail.first
  | .keep => tail.first ++ tail.more

/-- The text of a block whose lines are indented by `indent`, and the lines after it. A tab must not
indent. -/
def blockLines (style : BlockStyle) (indent : Nat) (tail : BlockTail) :
    List Line → Option (List Char × List Line)
  | [] => some (style.ending tail, [])
  | l :: rest =>
    let column := min indent (l.chars.takeWhile (· = ' ')).length
    let content := l.chars.drop column
    if column < indent ∧ content.head? = some '\t' then none
    else if content = [] ∧ l.ending ≠ [] then
      blockLines style indent { tail with more := tail.more ++ l.ending } rest
    else if column < indent ∨ content = [] then some (style.ending tail, l :: rest)
    else
      let inset := content.head?.any isBlank
      (blockLines style indent ⟨l.ending, [], inset⟩ rest).map fun (more, rest) =>
        (style.between tail inset ++ content ++ more, rest)

/-- The indentation of the first line that is not empty, or of an empty line before it if that is
deeper. -/
def firstIndent? : List Line → Option Nat
  | [] => some 0
  | l :: rest =>
    let column := (l.chars.takeWhile (· = ' ')).length
    match l.chars.drop column, l.ending with
    | '\t' :: _, _ => none
    | [], _ :: _ => (firstIndent? rest).map (max column)
    | _, _ => some column

/-- The style that the head of a block starts with, and the rest of the head. The indentation and
the mark for the breaks at the end come in either order. -/
def blockStyle? (folded : Bool) (cs : List Char) : Option (BlockStyle × List Char) :=
  let (chomping, rest) := chomping? cs
  let (deeper, rest) := deeper? rest
  let (chomping, rest) := if chomping = none then chomping? rest else (chomping, rest)
  if deeper = some 0 then none else some (⟨folded, chomping.getD .clip, deeper⟩, rest)
where
  chomping? : List Char → Option Chomping × List Char
    | '+' :: rest => (some .keep, rest)
    | '-' :: rest => (some .strip, rest)
    | cs => (none, cs)
  deeper? : List Char → Option Nat × List Char
    | [] => (none, [])
    | c :: rest => if c.isDigit then (some (c.toNat - 48), rest) else (none, c :: rest)

/-- Nothing but blanks and a comment. -/
def isIdle (cs : List Char) : Bool :=
  match cs.dropWhile isBlank with
  | [] => true
  | c :: _ => c = '#'

/-- The text of a block scalar after its mark, in a block that is indented by `indent`. -/
def blockScalar (folded : Bool) (indent : Int) (c : Cursor) : Scanned :=
  match lines c.text with
  | [] => some ([], c)
  | head :: body =>
    match blockStyle? folded head.chars with
    | none => none
    | some (style, rest) =>
      if isIdle rest then
        let column? :=
          match style.deeper with
          | some n => some ((max indent 0).toNat + n)
          | none => (firstIndent? body).map fun n => max n (max (indent + 1) 1).toNat
        match column? with
        | none => none
        | some column =>
          (blockLines style column ⟨[], [], false⟩ body).map fun (text, after) =>
            let passed := 1 + body.length - after.length
            (text, ⟨⟨c.place.line + passed, 0, true⟩, after.flatMap fun l => l.chars ++ l.ending⟩)
      else none

end ApiShape.Source.Yaml
