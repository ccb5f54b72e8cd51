import ApiShape.Document.Parts
import ApiShape.Document.Target

/-!
# Resolving references

A reference is followed to a part of the kind that is needed. If it leads to another reference, that
one is followed in turn. No reference is followed twice, so a chain that loops back is an error.
-/

namespace ApiShape

/-- Why a reference cannot be resolved. -/
inductive UnresolvedReason where
  | badRef (e : RefError)
  | pointer (e : PointerError)
  | wrongKind (expected : ComponentKind)
  /-- The text of the reference that the chain comes back to. -/
  | cycle (text : String)
  deriving DecidableEq, Repr

/-- The message of the reason. -/
def UnresolvedReason.message : UnresolvedReason → String
  | .badRef e => e.message
  | .pointer e => e.message
  | .wrongKind expected => "expected a " ++ expected.name
  | .cycle text => "reference chain loops back to `" ++ text ++ "`"

/-- The kinds of values that references resolve to. -/
class Component (α : Type) where
  kind : ComponentKind
  ofTarget? : Target → Option α

instance : Component Schema where
  kind := .schema
  ofTarget?
    | .schema s => some s
    | _ => none

instance : Component Document.Parameter where
  kind := .parameter
  ofTarget?
    | .parameter p => some p
    | _ => none

instance : Component Document.RequestBody where
  kind := .requestBody
  ofTarget?
    | .requestBody b => some b
    | _ => none

instance : Component Document.Response where
  kind := .response
  ofTarget?
    | .response r => some r
    | _ => none

namespace Document

/-- What a reference points at. -/
def target (d : Document) (r : Ref) : Except UnresolvedReason Target :=
  match r.pointer with
  | .error e => .error (.badRef e)
  | .ok p => (p.resolve (Target.document d)).mapError .pointer

/-- A step from a reference: to a value of the kind, or to another reference to one. -/
def stepFrom (α : Type) [Component α] (d : Document) (r : Ref) :
    Except UnresolvedReason (RefOr α) :=
  match d.target r with
  | .error e => .error e
  | .ok t =>
    match Component.ofTarget? t with
    | some a => .ok (.inline a)
    | none =>
      match t with
      | .reference kind next =>
        if kind = Component.kind α then .ok (.ref next)
        else .error (.wrongKind (Component.kind α))
      | _ => .error (.wrongKind (Component.kind α))

/-- The texts other than one. -/
def without (texts : List String) (text : String) : List String :=
  texts.filter (· ≠ text)

theorem length_without_lt {texts : List String} {text : String} (h : text ∈ texts) :
    (without texts text).length < texts.length := by
  rw [without, List.length_filter_lt_length_iff_exists]
  exact ⟨text, h, by simp⟩

/-- Follows a chain of references, of which only those with the given texts may still be
followed. -/
def followFrom (α : Type) [Component α] (d : Document) (unfollowed : List String) (r : Ref) :
    Except UnresolvedReason α :=
  if _h : r.text ∈ unfollowed then
    match stepFrom α d r with
    | .error e => .error e
    | .ok (.inline a) => .ok a
    | .ok (.ref next) => followFrom α d (without unfollowed r.text) next
  else .error (.cycle r.text)
termination_by unfollowed.length
decreasing_by
  exact length_without_lt _h

/-- The value that a reference resolves to. The chain can only hold the reference itself and those
of the document. -/
def resolve (α : Type) [Component α] (d : Document) (r : Ref) : Except UnresolvedReason α :=
  followFrom α d (r.text :: d.references.map (·.text)) r

end Document

end ApiShape
