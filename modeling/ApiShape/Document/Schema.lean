import ApiShape.Document.Reference
import ApiShape.Json.Basic

/-!
# Schemas

Schemas as documents write them, with all the spellings of the versions of the format side by side.
-/

namespace ApiShape

/-- The types that a schema can name. -/
inductive SchemaType where
  | string
  | integer
  | number
  | boolean
  | array
  | object
  | null
  /-- A name that is no type. -/
  | other
  deriving DecidableEq, Repr

/-- The name of a type. -/
def SchemaType.name : SchemaType → String
  | .string => "string"
  | .integer => "integer"
  | .number => "number"
  | .boolean => "boolean"
  | .array => "array"
  | .object => "object"
  | .null => "null"
  | .other => "other"

/-- The type of a name. -/
def SchemaType.ofName : String → SchemaType
  | "string" => .string
  | "integer" => .integer
  | "number" => .number
  | "boolean" => .boolean
  | "array" => .array
  | "object" => .object
  | "null" => .null
  | _ => .other

/-- An exclusive bound: a flag that makes the plain bound exclusive, or a bound of its own. -/
inductive ExclusiveBound where
  | flag (b : Bool)
  | value (n : Number)
  deriving Repr

/-- What a schema says about properties that it does not declare. -/
inductive Additional (α : Type u) where
  | flag (b : Bool)
  | schema (s : α)
  deriving Repr

/-- How the branches of a union are told apart: by the value of a property. The mapping goes from
values to the references or names of the schemas that they stand for. -/
structure Discriminator where
  propertyName : String
  mapping : List (String × String) := []
  deriving DecidableEq, Repr

/-- A schema as written. -/
structure Schema where
  types : List SchemaType := []
  format : Option String := none
  title : Option String := none
  description : Option String := none
  deprecated : Option Bool := none
  nullable : Bool := false
  default : Option Json := none
  minimum : Option Number := none
  maximum : Option Number := none
  exclusiveMinimum : Option ExclusiveBound := none
  exclusiveMaximum : Option ExclusiveBound := none
  minLength : Option Nat := none
  maxLength : Option Nat := none
  pattern : Option String := none
  minItems : Option Nat := none
  maxItems : Option Nat := none
  readOnly : Bool := false
  writeOnly : Bool := false
  properties : Option (List (String × RefOr Schema)) := none
  required : List String := []
  additional : Option (Additional (RefOr Schema)) := none
  items : Option (RefOr Schema) := none
  enum : Option (List Json) := none
  const : Option Json := none
  allOf : Option (List (RefOr Schema)) := none
  anyOf : Option (List (RefOr Schema)) := none
  oneOf : Option (List (RefOr Schema)) := none
  discriminator : Option Discriminator := none
  /-- The fields that have no meaning of their own, in order. -/
  extensions : List (String × Json) := []
  deriving Repr, Inhabited

namespace Schema

/-- The value of a field that has no meaning of its own. -/
def extension? (s : Schema) (name : String) : Option Json :=
  Dict.get? s.extensions name

/-- The schema allows null, in one of three spellings. -/
def isNullable (s : Schema) : Bool :=
  s.nullable || s.types.contains .null || (s.extension? "x-nullable").bind (·.bool?) == some true

/-- The property of a name that the schema declares itself. -/
def property? (s : Schema) (name : String) : Option (RefOr Schema) :=
  s.properties.bind (Dict.get? · name)

/-- The schemas and references right inside a schema. -/
def parts (s : Schema) : List (RefOr Schema) :=
  (s.properties.getD []).map (·.2) ++
  (match s.additional with
    | some (.schema a) => [a]
    | _ => []) ++
  s.items.toList ++ s.allOf.getD [] ++ s.anyOf.getD [] ++ s.oneOf.getD []

end Schema

end ApiShape
