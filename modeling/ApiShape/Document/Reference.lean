import ApiShape.Pointer.Basic
import ApiShape.Text.Blank

/-!
# References

A reference is kept as it is written, and only looked into when it is followed. One that can be
followed points into the document that it stands in: it is a number sign and a pointer fragment,
maybe with blanks around.
-/

namespace ApiShape

/-- A reference to a part of a document, as written. -/
structure Ref where
  text : String
  deriving DecidableEq, Repr

/-- Why a reference points nowhere. -/
inductive RefError where
  | notSameDocument
  | pointer (e : Pointer.SyntaxError)
  deriving DecidableEq, Repr

/-- The message of the error. -/
def RefError.message : RefError → String
  | .notSameDocument =>
    "references must start with `#`; external references aren't supported"
  | .pointer e => "invalid JSON Pointer syntax: " ++ e.message

namespace Ref

/-- The pointer that a reference holds. -/
def pointer (r : Ref) : Except RefError Pointer :=
  match Text.trim r.text.toList with
  | '#' :: fragment => (Pointer.parseFragment (String.ofList fragment)).mapError .pointer
  | _ => .error .notSameDocument

/-- The last part of a text that slashes divide. -/
def afterLastSlash (text : String) : String :=
  String.ofList ((text.toList.splitOn '/').getLast?.getD [])

/-- The name that a reference ends in. -/
def name (r : Ref) : String :=
  match r.pointer with
  | .ok p => p.segments.getLast?.getD ""
  | .error _ => afterLastSlash r.text

/-- The name of the schema that segments point at, if they point right at a named schema. -/
def namedSchema? : List String → Option String
  | ["components", "schemas", name] => some name
  | ["definitions", name] => some name
  | _ => none

/-- The name of the schema that a reference points at, if it points right at a named schema. -/
def schemaName? (r : Ref) : Option String :=
  match r.pointer with
  | .ok p => namedSchema? p.segments
  | .error _ => none

/-- The reference of a text that can be followed. -/
def parse (text : String) : Except RefError Ref :=
  (Ref.pointer ⟨text⟩).map fun _ => ⟨text⟩

end Ref

/-- A value that stands where it is used, or a reference to one that stands elsewhere. -/
inductive RefOr (α : Type u) where
  | ref (r : Ref)
  | inline (value : α)
  deriving Repr

namespace RefOr

/-- The reference, if there is one. -/
def ref? : RefOr α → Option Ref
  | .ref r => some r
  | .inline _ => none

/-- The value, if it stands right there. -/
def inline? : RefOr α → Option α
  | .ref _ => none
  | .inline a => some a

end RefOr

end ApiShape
