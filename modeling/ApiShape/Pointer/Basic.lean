import ApiShape.Text.Percent

/-!
# Pointers

A pointer is a path of segments into a nested value. In its text every segment follows a slash, and
inside a segment `~1` stands for a slash and `~0` for a tilde. In a fragment the segments are
percent-encoded on top of that.
-/

namespace ApiShape

/-- A path into a nested value, from the outermost segment to the innermost. -/
structure Pointer where
  segments : List String
  deriving DecidableEq, Repr

namespace Pointer

/-- The text of a segment inside a pointer. -/
def escapeChars : List Char → List Char
  | [] => []
  | '~' :: rest => '~' :: '0' :: escapeChars rest
  | '/' :: rest => '~' :: '1' :: escapeChars rest
  | c :: rest => c :: escapeChars rest

/-- The segment that a text inside a pointer stands for. A tilde that starts no escape stays. -/
def unescapeChars : List Char → List Char
  | [] => []
  | '~' :: '1' :: rest => '/' :: unescapeChars rest
  | '~' :: '0' :: rest => '~' :: unescapeChars rest
  | c :: rest => c :: unescapeChars rest

/-- The text of a segment inside a pointer. -/
def escape (segment : String) : String :=
  String.ofList (escapeChars segment.toList)

/-- The segment that a text inside a pointer stands for. -/
def unescape (text : String) : String :=
  String.ofList (unescapeChars text.toList)

/-- One more than the greatest position in a list. -/
def indexBound : Nat := Nat.pow 2 64

/-- The number that a numeral without sign or leading zeros stands for. -/
def numeral? (cs : List Char) : Option Nat :=
  match cs with
  | ['0'] => some 0
  | c :: _ =>
    if c ≠ '0' ∧ cs.all Char.isDigit then
      some (cs.foldl (fun n d => n * 10 + (d.toNat - 48)) 0)
    else none
  | [] => none

/-- The position in a list that a segment stands for. -/
def index? (segment : String) : Option Nat :=
  match numeral? segment.toList with
  | some n => if n < indexBound then some n else none
  | none => none

/-- Why a text is no pointer. -/
inductive SyntaxError where
  | missingSlash
  /-- A segment, as written, whose octets are not UTF-8. -/
  | invalidUtf8 (segment : String)
  deriving DecidableEq, Repr

/-- The message of the error. -/
def SyntaxError.message : SyntaxError → String
  | .missingSlash => "JSON Pointer must start with `/`"
  | .invalidUtf8 segment =>
    "JSON Pointer segment `" ++ segment ++ "` isn't valid percent-encoded UTF-8"

/-- The pointer to the value itself. -/
def root : Pointer := ⟨[]⟩

/-- The segments of a text, as written. The empty text has none. -/
def split (text : String) : Except SyntaxError (List (List Char)) :=
  match text.toList with
  | [] => .ok []
  | '/' :: rest => .ok (rest.splitOn '/')
  | _ => .error .missingSlash

/-- The pointer of a text. -/
def parse (text : String) : Except SyntaxError Pointer := do
  return ⟨(← split text).map fun cs => String.ofList (unescapeChars cs)⟩

/-- A segment of a fragment. Percent-encoding is undone before the escapes are. -/
def fragmentSegment (cs : List Char) : Except SyntaxError String :=
  match Text.Percent.decode? cs with
  | some decoded => .ok (String.ofList (unescapeChars decoded))
  | none => .error (.invalidUtf8 (String.ofList cs))

/-- Reads every segment of a fragment; the first that cannot be read is the error. -/
def fragmentSegments : List (List Char) → Except SyntaxError (List String)
  | [] => .ok []
  | cs :: rest => do return (← fragmentSegment cs) :: (← fragmentSegments rest)

/-- The pointer of a URI fragment, without its number sign. -/
def parseFragment (text : String) : Except SyntaxError Pointer := do
  return ⟨← fragmentSegments (← split text)⟩

/-- The characters of a pointer's text. -/
def chars (p : Pointer) : List Char :=
  p.segments.flatMap fun s => '/' :: escapeChars s.toList

/-- The text of a pointer. -/
def text (p : Pointer) : String :=
  String.ofList p.chars

/-- The pointer that first goes along `p` and then along `q`. -/
def append (p q : Pointer) : Pointer :=
  ⟨p.segments ++ q.segments⟩

instance : Append Pointer := ⟨append⟩

end Pointer

end ApiShape
