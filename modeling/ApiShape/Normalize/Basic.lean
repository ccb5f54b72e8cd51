import ApiShape.Diagnostic
import ApiShape.Document.Resolve
import ApiShape.Node.Dedupe

/-!
# Normalization, the groundwork

Errors that end a normalization, locations, and what of a schema goes into a node as it is.
-/

namespace ApiShape

/-- Why a document cannot be normalized. -/
inductive NormalizeError where
  /-- A reference, as written, that cannot be resolved. -/
  | unresolvedReference (reference : String) (reason : UnresolvedReason)
  /-- Two operations with one ID, where IDs must be unique. -/
  | duplicateOperationId (id first second : String)
  /-- A schema that its own normalization leads back to. -/
  | endless
  deriving DecidableEq, Repr

/-- The message of the error. -/
def NormalizeError.message : NormalizeError → String
  | .unresolvedReference reference _ => "can't resolve reference `" ++ reference ++ "`"
  | .duplicateOperationId id first second =>
    "operation ID `" ++ id ++ "` is used by both `" ++ first ++ "` and `" ++ second ++ "`"
  | .endless => "schema leads back to itself"

namespace Document

/-- The value that a reference resolves to; the error names the reference. -/
def resolved (α : Type) [Component α] (d : Document) (r : Ref) : Report NormalizeError α :=
  .ofExcept ((d.resolve α r).mapError (.unresolvedReference r.text))

/-- The value at a place. -/
def valueAt (α : Type) [Component α] (d : Document) : RefOr α → Report NormalizeError α
  | .ref r => d.resolved α r
  | .inline a => pure a

end Document

/-- The location of a part, by the segments that lead to it. -/
def locate (location : String) (segments : List String) : String :=
  location ++ Pointer.text ⟨segments⟩

/-- The reference of a node that stands for what a reference of a document stands for. Named schemas
have one reference, wherever they are declared. -/
def Ref.normalized (r : Ref) : String :=
  match r.schemaName? with
  | some name => "#/components/schemas/" ++ Pointer.escape name
  | none => String.ofList (Text.Percent.decodeLossy r.text.toList)

namespace Schema

/-- The documentation of a schema. -/
def docs (s : Schema) : Docs :=
  { description := s.description
    title := s.title
    deprecated := s.deprecated
    default := s.default }

/-- The plain and the exclusive form of a bound. -/
def bound (value : Option Number) : Option ExclusiveBound → Option Number × Option Number
  | some (.flag true) => (none, value)
  | some (.value exclusive) => (value, some exclusive)
  | some (.flag false) => (value, none)
  | none => (value, none)

/-- The side that a schema is meant for. -/
def accessScope (s : Schema) : Option AccessScope :=
  if s.readOnly then some .read else if s.writeOnly then some .write else none

/-- The validation keywords of a schema. -/
def constraints (s : Schema) : Constraints :=
  let (minimum, exclusiveMinimum) := bound s.minimum s.exclusiveMinimum
  let (maximum, exclusiveMaximum) := bound s.maximum s.exclusiveMaximum
  { format := s.format
    pattern := s.pattern
    minimum, maximum, exclusiveMinimum, exclusiveMaximum
    minLength := s.minLength
    maxLength := s.maxLength
    minItems := s.minItems
    maxItems := s.maxItems
    accessScope := s.accessScope }

/-- The schema describes an object, by its type or by naming properties. -/
def infersObject (s : Schema) : Bool :=
  s.types.contains .object || s.properties.isSome || !s.required.isEmpty

/-- The one way in which a schema is normalized. -/
inductive Form where
  | enum (values : List Json)
  | allOf (branches : List (RefOr Schema))
  | anyOf (branches : List (RefOr Schema))
  | oneOf (branches : List (RefOr Schema))
  | typed
  | untyped

/-- The form of a schema: of several keywords that would give it one, the first in this order. -/
def form (s : Schema) : Form :=
  match s.enum, s.allOf, s.anyOf, s.oneOf with
  | some values, _, _, _ => .enum values
  | none, some branches, _, _ => .allOf branches
  | none, none, some branches, _ => .anyOf branches
  | none, none, none, some branches => .oneOf branches
  | none, none, none, none =>
    if !s.types.isEmpty || s.properties.isSome || s.const.isSome then .typed else .untyped

end Schema

end ApiShape
