import ApiShape.Number.Reading
import ApiShape.Source.Basic
import ApiShape.Text.Hexadecimal

/-!
# Sources from JSON text

A reader of JSON text that never fails: where the text goes wrong, the source is broken, and what
was read before stays. Containers may be nested 127 deep; a text that is nested deeper goes wrong
there.
-/

namespace ApiShape.Source.JsonText

open Text (hexDigit?)

/-- What was read, and the rest of the text unless the text went wrong. -/
abbrev Outcome (α : Type) := α × Option (List Char)

/-- The blanks of JSON text. -/
def isBlank (c : Char) : Bool :=
  c = ' ' || c = '\n' || c = '\t' || c = '\r'

/-- The text without the blanks at its start. -/
def skipBlanks (cs : List Char) : List Char :=
  cs.dropWhile isBlank

/-- The code unit of four hexadecimal digits. -/
def codeUnit? (a b c d : Char) : Option Nat := do
  return (((← hexDigit? a) * 16 + (← hexDigit? b)) * 16 + (← hexDigit? c)) * 16 + (← hexDigit? d)

/-- The first half of a character outside the basic plane. -/
def isLeading (n : Nat) : Bool :=
  0xD800 ≤ n && n ≤ 0xDBFF

/-- The second half of a character outside the basic plane. -/
def isTrailing (n : Nat) : Bool :=
  0xDC00 ≤ n && n ≤ 0xDFFF

/-- The character that a letter after a backslash stands for. -/
def escape? (c : Char) : Option Char :=
  if c = '"' || c = '\\' || c = '/' then some c
  else if c = 'b' then some '\x08'
  else if c = 'f' then some '\x0c'
  else if c = 'n' then some '\n'
  else if c = 'r' then some '\r'
  else if c = 't' then some '\t'
  else none

/-- Characters of a string in front of what was read. -/
def push (c : Option Char) :
    Option (List (Option Char) × List Char) → Option (List (Option Char) × List Char) :=
  Option.map fun (cs, rest) => (c :: cs, rest)

/-- The characters of a string after its opening quote, and the text after its closing quote. Half
of a character outside the basic plane is no character. -/
def stringBody : List Char → Option (List (Option Char) × List Char)
  | [] => none
  | '"' :: rest => some ([], rest)
  | '\\' :: 'u' :: a :: b :: c :: d :: rest =>
    match codeUnit? a b c d with
    | none => none
    | some n =>
      if isLeading n then
        match rest with
        | '\\' :: 'u' :: e :: f :: g :: h :: more =>
          match (codeUnit? e f g h).filter isTrailing with
          | some m =>
            push (some (Char.ofNat (0x10000 + (n - 0xD800) * 0x400 + (m - 0xDC00))))
              (stringBody more)
          | none => push none (stringBody ('\\' :: 'u' :: e :: f :: g :: h :: more))
        | rest => push none (stringBody rest)
      else push (if isTrailing n then none else some (Char.ofNat n)) (stringBody rest)
  | '\\' :: c :: rest =>
    match escape? c with
    | none => none
    | some e => push (some e) (stringBody rest)
  | c :: rest => if c.toNat < 0x20 then none else push (some c) (stringBody rest)

/-- The string that characters make up, if all of them are there. -/
def stringOf? (cs : List (Option Char)) : Option String :=
  (cs.mapM id).map String.ofList

/-- A scalar that is read to its end, or a text that goes wrong. -/
def scalar (leaf : Leaf) (rest : Option (List Char)) : Outcome Source :=
  match rest with
  | some rest => (.leaf leaf, some rest)
  | none => (.broken, none)

/-- The text after a word that it must start with. -/
def afterWord (word : List Char) (cs : List Char) : Option (List Char) :=
  if word.isPrefixOf cs then some (cs.drop word.length) else none

/-- The scalar that a text starts with. -/
def scalarValue : List Char → Outcome Source
  | '"' :: rest =>
    match stringBody rest with
    | some (cs, rest) =>
      match stringOf? cs with
      | some s => (.leaf (.ofString s), some rest)
      | none => (.unreadable, some rest)
    | none => (.broken, none)
  | 'n' :: rest => scalar (.plain .null) (afterWord ['u', 'l', 'l'] rest)
  | 't' :: rest => scalar (.plain (.bool true)) (afterWord ['r', 'u', 'e'] rest)
  | 'f' :: rest => scalar (.plain (.bool false)) (afterWord ['a', 'l', 's', 'e'] rest)
  | cs =>
    match Number.Written.scan cs with
    | some (w, rest) =>
      match w.value? with
      | some n => (.leaf (.plain (.number n)), some rest)
      | none => (.unreadable, some rest)
    | none => (.broken, none)

/-- The items of a list from the start of an item on. There are at most as many as `bound`. -/
def items (read : List Char → Outcome Source) : (bound : Nat) → List Char → Outcome (List Source)
  | 0, _ => ([.broken], none)
  | bound + 1, cs =>
    match read cs with
    | (item, none) => ([item], none)
    | (item, some rest) =>
      match skipBlanks rest with
      | ',' :: rest =>
        let (more, rest) := items read bound rest
        (item :: more, rest)
      | ']' :: rest => ([item], some rest)
      | _ => ([item, .broken], none)

/-- An entry that the text does not get to. -/
def brokenEntry : Leaf × Source :=
  (.ofString "", .broken)

/-- The entries of a mapping from the start of an entry on. There are at most as many as `bound`. -/
def entries (read : List Char → Outcome Source) :
    (bound : Nat) → List Char → Outcome (List (Leaf × Source))
  | 0, _ => ([brokenEntry], none)
  | bound + 1, cs =>
    match skipBlanks cs with
    | '"' :: rest =>
      match (stringBody rest).bind fun (cs, rest) => (stringOf? cs).map (·, rest) with
      | none => ([brokenEntry], none)
      | some (name, rest) =>
        let key := Leaf.ofString name
        match skipBlanks rest with
        | ':' :: rest =>
          match read rest with
          | (value, none) => ([(key, value)], none)
          | (value, some rest) =>
            match skipBlanks rest with
            | ',' :: rest =>
              let (more, rest) := entries read bound rest
              ((key, value) :: more, rest)
            | '\x7d' :: rest => ([(key, value)], some rest)
            | _ => ([(key, value), brokenEntry], none)
        | _ => ([(key, .broken)], none)
    | _ => ([brokenEntry], none)

/-- The value that a text starts with. Its containers may be nested `depth` deep. -/
def value : (depth : Nat) → List Char → Outcome Source
  | 0, cs => scalarValue (skipBlanks cs)
  | depth + 1, cs =>
    match skipBlanks cs with
    | '[' :: rest =>
      match skipBlanks rest with
      | ']' :: rest => (.list true [], some rest)
      | _ =>
        let (read, rest) := items (value depth) rest.length rest
        (.list true read, rest)
    | '\x7b' :: rest =>
      match skipBlanks rest with
      | '\x7d' :: rest => (.mapping [], some rest)
      | _ =>
        let (read, rest) := entries (value depth) rest.length rest
        (.mapping read, rest)
    | cs => scalarValue cs

end JsonText

/-- How deep containers may be nested in JSON text. -/
def maxDepth : Nat := 127

/-- The value that a JSON text starts with; what follows it does not matter. -/
def ofJsonStart (text : String) : Source :=
  (JsonText.value maxDepth text.toList).1

/-- Nothing but blanks follows the value that a JSON text starts with. -/
def endsCleanly (text : String) : Bool :=
  match (JsonText.value maxDepth text.toList).2 with
  | some rest => (JsonText.skipBlanks rest).isEmpty
  | none => false

end ApiShape.Source
