import ApiShape.Json.Basic
import ApiShape.Pointer.Basic

/-!
# Nodes

A node is a normalized schema. Every field is optional. A node with an operator is a composition of
its items; a node with a reference stands for a named component, and carries nothing besides but
documentation. Documentation says nothing about the shape of the values that a node describes.
-/

namespace ApiShape

/-- The types of nodes. -/
inductive NodeType where
  | string
  | number
  | boolean
  | object
  | array
  | tuple
  | enum
  | null
  | unknown
  | never
  | void
  deriving DecidableEq, Repr

/-- How the items of a composition are combined. -/
inductive Operator where
  | and
  | or
  deriving DecidableEq, Repr

/-- The side that a value is meant for. -/
inductive AccessScope where
  | read
  | write
  deriving DecidableEq, Repr

/-- Documentation of a node. -/
structure Docs where
  description : Option String := none
  title : Option String := none
  deprecated : Option Bool := none
  default : Option Json := none
  deriving BEq, Repr

/-- The documentation, with the description, title and deprecation that it lacks filled in. -/
def Docs.inherit (docs other : Docs) : Docs :=
  { docs with
    description := docs.description <|> other.description
    title := docs.title <|> other.title
    deprecated := docs.deprecated <|> other.deprecated }

/-- Validation keywords. -/
structure Constraints where
  format : Option String := none
  pattern : Option String := none
  minimum : Option Number := none
  maximum : Option Number := none
  exclusiveMinimum : Option Number := none
  exclusiveMaximum : Option Number := none
  minLength : Option Nat := none
  maxLength : Option Nat := none
  minItems : Option Nat := none
  maxItems : Option Nat := none
  accessScope : Option AccessScope := none
  deriving BEq, Repr

/-- A normalized schema. -/
structure Node where
  reference : Option String := none
  type : Option NodeType := none
  items : List Node := []
  operator : Option Operator := none
  properties : List (String × Node) := []
  required : List String := []
  additional : Option Node := none
  const : Option Json := none
  docs : Docs := {}
  constraints : Constraints := {}
  deriving Repr, Inhabited

namespace Node

/-- The node that has no field and constrains nothing. -/
def empty : Node := {}

/-- A node of a type and nothing else. -/
def ofType (type : NodeType) : Node := { type := some type }

/-- A reference. -/
def ofReference (reference : String) : Node := { reference := some reference }

/-- The composition of some items. -/
def composition (operator : Operator) (items : List Node) : Node :=
  { operator := some operator, items }

/-- The node combines its items. -/
def isComposition (n : Node) : Bool :=
  n.operator.isSome

/-- Nothing but the type and the documentation is set. -/
def isShapeless (n : Node) : Bool :=
  n.reference.isNone && n.items.isEmpty && n.operator.isNone && n.properties.isEmpty &&
    n.required.isEmpty && n.additional.isNone && n.const.isNone && n.constraints == {}

/-- The node has no field at all. -/
def isEmpty (n : Node) : Bool :=
  n.type.isNone && n.isShapeless && n.docs == {}

/-- The node says that the type is unknown, and nothing else. -/
def isBareUnknown (n : Node) : Bool :=
  n.type == some .unknown && n.isShapeless

/-- The name of the component that a reference stands for. The reference is not percent-encoded. -/
def componentName? (n : Node) : Option String := do
  match (← n.reference).toList with
  | '#' :: rest =>
    match Pointer.parse (String.ofList rest) with
    | .ok ⟨["components", "schemas", name]⟩ => some name
    | _ => none
  | _ => none

/-- The nodes right inside a node: items, properties, additional properties. -/
def children (n : Node) : List Node :=
  n.items ++ n.properties.map (·.2) ++ n.additional.toList

end Node

end ApiShape
