import ApiShape.Pointer.Basic
import ApiShape.Dict
import ApiShape.Text.Quoted
import ApiShape.Text.Similarity

/-!
# Following pointers

A pointer is followed one segment at a time. What a segment can do depends on how the value looks
from outside: entries by name, items by position, or a leaf that has no parts.
-/

namespace ApiShape

/-- How a value looks to a pointer. The texts name the kind of the value in errors. -/
inductive View (α : Type u) where
  | keyed (entries : Dict α)
  | indexed (items : List α)
  | leaf (kind : String)
  /-- An optional value that is not there. -/
  | absent

/-- Types whose values a pointer can follow. -/
class Pointee (α : Type u) where
  view : α → View α

/-- Why a pointer cannot be followed. -/
inductive PointerError where
  /-- There is no such key; maybe one that is nearly the same. -/
  | unknownKey (key : String) (suggestion : Option String)
  | outOfRange (index length : Nat)
  /-- The value has no such parts. The pointer starts at the segment that could not be followed. -/
  | wrongKind (pointer : String) (kind : String)
  deriving DecidableEq, Repr

/-- The message of the error. -/
def PointerError.message : PointerError → String
  | .unknownKey key none => "unknown key " ++ Text.quoted key
  | .unknownKey key (some suggestion) =>
    "unknown key " ++ Text.quoted key ++ "; did you mean " ++ Text.quoted suggestion ++ "?"
  | .outOfRange index length =>
    "index " ++ toString index ++ " out of range 0.." ++ toString length
  | .wrongKind pointer kind => "can't resolve " ++ Text.quoted pointer ++ " against " ++ kind

namespace Pointer

variable {α : Type u} [Pointee α]

/-- The part of a value that the first of the segments leads to. -/
def step (value : α) (segment : String) (rest : List String) : Except PointerError α :=
  match Pointee.view value with
  | .keyed entries =>
    match entries.get? segment with
    | some part => .ok part
    | none => .error (.unknownKey segment (Text.closest segment entries.keys))
  | .indexed items =>
    match index? segment with
    | none => .error (.wrongKind (text ⟨segment :: rest⟩) "array")
    | some i =>
      match items[i]? with
      | some part => .ok part
      | none => .error (.outOfRange i items.length)
  | .leaf kind => .error (.wrongKind (text ⟨segment :: rest⟩) kind)
  | .absent => .error (.unknownKey segment none)

/-- Follows segments from a value on. -/
def follow (value : α) : List String → Except PointerError α
  | [] => .ok value
  | segment :: rest =>
    match step value segment rest with
    | .ok part => follow part rest
    | .error e => .error e

/-- The part of a value that a pointer leads to. -/
def resolve (p : Pointer) (value : α) : Except PointerError α :=
  follow value p.segments

end Pointer

end ApiShape
