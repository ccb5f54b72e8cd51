import ApiShape.Config.Basic
import ApiShape.Text.Hexadecimal

/-!
# Configuration from TOML

A configuration is a TOML text that sets some of four options, each to a truth value or to an array
of strings. Whatever else TOML can say has no meaning here, so only the part of TOML that can set an
option is read, and the rest is refused together with what is no TOML at all.
-/

namespace ApiShape.Config.Toml

/-- What was read, and the rest of the text. -/
abbrev Parsed (α : Type) := Option (α × List Char)

/-- A blank within a line. -/
def isBlank (c : Char) : Bool :=
  c = ' ' || c = '\t'

/-- A character that may stand in a comment or in a string on one line. -/
def isPlain (c : Char) : Bool :=
  c = '\t' || (0x20 ≤ c.toNat && c.toNat ≠ 0x7f)

/-- A character of a key without quotes. -/
def isKeyChar (c : Char) : Bool :=
  c.isAlphanum || c = '_' || c = '-'

/-- The text without the blanks at its start. -/
def skipBlanks (cs : List Char) : List Char :=
  cs.dropWhile isBlank

/-- The text after a line break that it starts with. -/
def lineBreak? : List Char → Option (List Char)
  | '\n' :: rest => some rest
  | '\r' :: '\n' :: rest => some rest
  | _ => none

/-- The text without a comment at its start. -/
def skipComment : List Char → List Char
  | '#' :: rest => rest.dropWhile isPlain
  | cs => cs

/-- The text without the blanks, comments and line breaks at its start, of which there are at most
`bound`. -/
def skipLines : (bound : Nat) → List Char → List Char
  | 0, cs => cs
  | bound + 1, cs =>
    let cs := skipComment (skipBlanks cs)
    match lineBreak? cs with
    | some rest => skipLines bound rest
    | none => cs

/-- The character that hexadecimal digits stand for. -/
def codePoint? (digits : List Char) : Option Char := do
  Text.charOfCode? ((← digits.mapM Text.hexDigit?).foldl (fun n d => n * 16 + d) 0)

/-- The character that the text after a backslash starts with, and the rest. -/
def escape? : List Char → Parsed Char
  | 'b' :: rest => some ('\x08', rest)
  | 't' :: rest => some ('\t', rest)
  | 'n' :: rest => some ('\n', rest)
  | 'f' :: rest => some ('\x0c', rest)
  | 'r' :: rest => some ('\r', rest)
  | 'e' :: rest => some ('\x1b', rest)
  | '"' :: rest => some ('"', rest)
  | '\\' :: rest => some ('\\', rest)
  | 'x' :: a :: b :: rest => (codePoint? [a, b]).map (·, rest)
  | 'u' :: a :: b :: c :: d :: rest => (codePoint? [a, b, c, d]).map (·, rest)
  | 'U' :: a :: b :: c :: d :: e :: f :: g :: h :: rest =>
    (codePoint? [a, b, c, d, e, f, g, h]).map (·, rest)
  | _ => none

/-- A character in front of what was read. -/
def push (c : Char) (p : Parsed (List Char)) : Parsed (List Char) :=
  p.map fun (cs, rest) => (c :: cs, rest)

/-- A string on one line, after its opening quote. -/
def basicString : (bound : Nat) → List Char → Parsed (List Char)
  | 0, _ => none
  | bound + 1, cs =>
    match cs with
    | '"' :: rest => some ([], rest)
    | '\\' :: rest =>
      match escape? rest with
      | some (c, rest) => push c (basicString bound rest)
      | none => none
    | c :: rest => if isPlain c then push c (basicString bound rest) else none
    | [] => none

/-- A string on one line without escapes, after its opening quote. -/
def literalString : List Char → Parsed (List Char)
  | '\'' :: rest => some ([], rest)
  | c :: rest => if isPlain c then push c (literalString rest) else none
  | [] => none

/-- Up to two quotes may stand right before the closing quotes of a string on several lines. -/
def closing? (quote : Char) : List Char → Parsed (List Char)
  | a :: b :: c :: rest =>
    if a = quote ∧ b = quote ∧ c = quote then
      match rest with
      | d :: e :: rest =>
        if d = quote ∧ e = quote then some ([quote, quote], rest)
        else if d = quote then some ([quote], e :: rest)
        else some ([], d :: e :: rest)
      | [d] => if d = quote then some ([quote], []) else some ([], [d])
      | [] => some ([], [])
    else none
  | _ => none

/-- A string on several lines, after its opening quotes. A backslash at the end of a line takes
away everything up to the next character that is no blank. -/
def basicLines : (bound : Nat) → List Char → Parsed (List Char)
  | 0, _ => none
  | bound + 1, cs =>
    match closing? '"' cs with
    | some found => some found
    | none =>
      match cs with
      | '\\' :: rest =>
        match lineBreak? (skipBlanks rest) with
        | some rest =>
          basicLines bound (rest.dropWhile fun c => isBlank c || c = '\n' || c = '\r')
        | none =>
          match escape? rest with
          | some (c, rest) => push c (basicLines bound rest)
          | none => none
      | c :: rest =>
        match lineBreak? cs with
        | some rest => push '\n' (basicLines bound rest)
        | none => if isPlain c then push c (basicLines bound rest) else none
      | [] => none

/-- A string on several lines without escapes, after its opening quotes. -/
def literalLines : (bound : Nat) → List Char → Parsed (List Char)
  | 0, _ => none
  | bound + 1, cs =>
    match closing? '\'' cs with
    | some found => some found
    | none =>
      match cs with
      | c :: rest =>
        match lineBreak? cs with
        | some rest => push '\n' (literalLines bound rest)
        | none => if isPlain c then push c (literalLines bound rest) else none
      | [] => none

/-- The text without a line break at its start. -/
def skipBreak (cs : List Char) : List Char :=
  (lineBreak? cs).getD cs

/-- The string that a text starts with. -/
def string? (cs : List Char) : Parsed String :=
  let body : Parsed (List Char) :=
    match cs with
    | '"' :: '"' :: '"' :: rest => basicLines (rest.length + 1) (skipBreak rest)
    | '\'' :: '\'' :: '\'' :: rest => literalLines (rest.length + 1) (skipBreak rest)
    | '"' :: rest => basicString (rest.length + 1) rest
    | '\'' :: rest => literalString rest
    | _ => none
  body.map fun (cs, rest) => (String.ofList cs, rest)

/-- The key that a text starts with. It stands on one line. -/
def key? (cs : List Char) : Parsed String :=
  match cs with
  | '"' :: rest => (basicString (rest.length + 1) rest).map fun (k, rest) => (String.ofList k, rest)
  | '\'' :: rest => (literalString rest).map fun (k, rest) => (String.ofList k, rest)
  | _ =>
    match cs.takeWhile isKeyChar with
    | [] => none
    | k => some (String.ofList k, cs.dropWhile isKeyChar)

/-- The items of an array of strings, after its opening bracket. A comma may follow the last. -/
def strings? : (bound : Nat) → List Char → Parsed (List String)
  | 0, _ => none
  | bound + 1, cs =>
    match skipLines (cs.length + 1) cs with
    | ']' :: rest => some ([], rest)
    | cs =>
      match string? cs with
      | none => none
      | some (s, rest) =>
        match skipLines (rest.length + 1) rest with
        | ',' :: rest => (strings? bound rest).map fun (more, rest) => (s :: more, rest)
        | ']' :: rest => some ([s], rest)
        | _ => none

/-- What an option can be set to. -/
inductive Value where
  | flag (b : Bool)
  | strings (items : List String)

/-- The value that a text starts with. -/
def value? (cs : List Char) : Parsed Value :=
  match cs with
  | 't' :: 'r' :: 'u' :: 'e' :: rest => some (.flag true, rest)
  | 'f' :: 'a' :: 'l' :: 's' :: 'e' :: rest => some (.flag false, rest)
  | '[' :: rest => (strings? (rest.length + 1) rest).map fun (items, rest) => (.strings items, rest)
  | _ => none

/-- The settings of a text, line by line. -/
def settings? : (bound : Nat) → List Char → Option (List (String × Value))
  | 0, _ => none
  | bound + 1, cs =>
    match skipLines (cs.length + 1) cs with
    | [] => some []
    | cs =>
      match key? cs with
      | none => none
      | some (key, rest) =>
        match skipBlanks rest with
        | '=' :: rest =>
          match value? (skipBlanks rest) with
          | none => none
          | some (value, rest) =>
            match skipComment (skipBlanks rest) with
            | [] => some [(key, value)]
            | rest =>
              match lineBreak? rest with
              | some rest => (settings? bound rest).map ((key, value) :: ·)
              | none => none
        | _ => none

/-- Sets an option by its name. -/
def set? (config : Config) : String × Value → Option Config
  | ("media-types", .strings items) => some { config with mediaTypes := items }
  | ("success-keywords", .strings items) => some { config with successKeywords := items }
  | ("error-keywords", .strings items) => some { config with errorKeywords := items }
  | ("strict-operation-ids", .flag b) => some { config with strictOperationIds := b }
  | _ => none

end Toml

/-- The configuration of a TOML text. What it does not set keeps its default; nothing is set
twice. -/
def ofToml? (text : String) : Option Config := do
  let cs := match text.toList with
    | '\uFEFF' :: rest => rest
    | cs => cs
  let settings ← Toml.settings? (cs.length + 1) cs
  if (settings.map (·.1)).Nodup then settings.foldlM Toml.set? {} else none

end ApiShape.Config
