import ApiShape.Document.Ancestors
import ApiShape.Json.Printer
import ApiShape.Normalize.Basic
import ApiShape.Normalize.Discriminator

/-!
# Normalization of schemas

How a schema becomes a node, given how the schemas that it leads to become nodes. A reference
becomes a reference and is not looked through, so the only way back to a schema is by taking over a
property of an ancestor. The definition goes on for as many steps as there are schemas; whatever
takes more leads back to itself.
-/

namespace ApiShape

/-- How the schema at a place, which lies at a location, becomes a node. -/
abbrev Normalizer := RefOr Schema → String → Report NormalizeError Node

namespace Schema

/-- The string at a position of the list that a field holds. -/
def listedString? (s : Schema) (field : String) (i : Nat) : Option String := do
  ((← (← s.extension? field).array?)[i]?).bind (·.string?)

/-- The type of an enum value, if it can be a literal. -/
def literalType? (nullable : Bool) : Json → Option NodeType
  | .string _ => some .string
  | .number _ => some .number
  | .bool _ => some .boolean
  | .null => if nullable then some .null else none
  | .array _ | .object _ => none

/-- The node of an enum value at a position. -/
def literal (s : Schema) (i : Nat) (type : NodeType) (value : Json) : Node :=
  { type := some type
    const := some value
    docs := {
      title := s.listedString? "x-enum-varnames" i <|> s.listedString? "x-enumNames" i
      description := s.listedString? "x-enum-descriptions" i } }

/-- The nodes of enum values from a position on. Lists and objects are skipped and recorded. -/
def literals (s : Schema) (location : String) : Nat → List Json → Report ε (List Node)
  | _, [] => pure []
  | i, value :: rest =>
    match literalType? s.isNullable value with
    | some type => do
      let more ← literals s location (i + 1) rest
      return s.literal i type value :: more
    | none =>
      match value with
      | .array _ | .object _ => do
        Report.record .unsupportedEnumValueType (locate location ["enum", toString i])
          ("skipping enum value `" ++ value.text ++
            "`; only strings, numbers, booleans, and `null` are supported")
        literals s location (i + 1) rest
      | _ => literals s location (i + 1) rest

/-- The node of an enum: the union of its literals. -/
def enumeration (s : Schema) (location : String) (values : List Json) : Report ε Node := do
  let items ← s.literals location 0 values
  return { type := some .enum, operator := some .or, items, docs := s.docs }

/-- The nodes of the properties that a schema declares. -/
def propertyNodes (normalize : Normalizer) (s : Schema) (location : String) :
    Report NormalizeError (Dict Node) :=
  Report.traverse
    (fun (name, place) => do
      return (name, ← normalize place (locate location ["properties", name])))
    (s.properties.getD [])

/-- What an object node says about properties that it does not declare. If it declares none, they
are unknown unless the schema says otherwise. -/
def additionalNode (normalize : Normalizer) (s : Schema) (location : String)
    (properties : Dict Node) : Report NormalizeError (Option Node) :=
  match s.additional with
  | none => pure (if properties.isEmpty then some (.ofType .unknown) else none)
  | some (.flag true) => pure (some (.ofType .unknown))
  | some (.flag false) => pure (some (.ofType .never))
  | some (.schema place) => do
    return some (← normalize place (locate location ["additionalProperties"]))

/-- The object node of a schema with some properties. Of the required names only those of
properties stay. -/
def objectNode (normalize : Normalizer) (s : Schema) (location : String)
    (properties : Dict Node) : Report NormalizeError Node := do
  let additional ← s.additionalNode normalize location properties
  return {
    type := some .object
    properties
    required := (s.required.filter properties.has).eraseDups
    additional }

/-- The longest list of fixed length that becomes a tuple. -/
def maxTupleLength : Nat := 256

/-- The length of a tuple, if the schema fixes one. -/
def tupleLength? (s : Schema) : Option Nat :=
  match s.minItems, s.maxItems with
  | some least, some most =>
    if least = most ∧ 1 ≤ most ∧ most ≤ maxTupleLength then some most else none
  | _, _ => none

/-- The node of a list: a tuple if its length is fixed, otherwise an array. -/
def arrayNode (normalize : Normalizer) (s : Schema) (location : String) :
    Report NormalizeError Node := do
  let item ←
    match s.items with
    | some place => some <$> normalize place (locate location ["items"])
    | none => pure none
  match s.tupleLength? with
  | some n =>
    return { type := some .tuple, items := List.replicate n (item.getD (.ofType .unknown)) }
  | none => return { type := some .array, items := item.toList }

/-- The node of one type, without validation keywords and documentation. -/
def bareNode (normalize : Normalizer) (s : Schema) (location : String) :
    SchemaType → Report NormalizeError Node
  | .string => pure (.ofType .string)
  | .integer | .number => pure (.ofType .number)
  | .boolean => pure (.ofType .boolean)
  | .null => pure (.ofType .null)
  | .array => s.arrayNode normalize location
  | .object => do s.objectNode normalize location (← s.propertyNodes normalize location)
  | .other => pure (.ofType .unknown)

/-- The node of one of the types of a schema, without documentation. -/
def typeNode (normalize : Normalizer) (s : Schema) (location : String) (type : SchemaType) :
    Report NormalizeError Node := do
  let n ← s.bareNode normalize location type
  return { n with constraints := s.constraints, const := s.const }

/-- The type of a constant; null has none. -/
def constantType? : Json → Option SchemaType
  | .null => none
  | .bool _ => some .boolean
  | .number _ => some .number
  | .string _ => some .string
  | .array _ => some .array
  | .object _ => some .object

/-- The types of a schema other than null, each once. Without any, properties make it an object,
and a constant makes it the constant's type. -/
def effectiveTypes (s : Schema) : List SchemaType :=
  match (s.types.filter (· ≠ .null)).eraseDups with
  | [] =>
    if s.properties.isSome then [.object] else (s.const.bind constantType?).toList
  | types => types

/-- The node of a schema with types: one node, or the union of a node for each type and of null. -/
def typed (normalize : Normalizer) (s : Schema) (location : String) :
    Report NormalizeError Node := do
  let nodes ← Report.traverse (s.typeNode normalize location) s.effectiveTypes
  match nodes, s.isNullable with
  | [], _ => return { type := some .null, const := s.const, docs := s.docs }
  | [n], false => return { n with docs := s.docs }
  | nodes, nullable =>
    let null := if nullable then [Node.ofType .null] else []
    return Node.dedupe { Node.composition .or (nodes ++ null) with docs := s.docs }

/-- Marks the properties of a node that are among some required names as required. -/
def promote (required : List String) (n : Node) : Node :=
  let promoted := required.filter (Dict.has n.properties)
  { n with required := (n.required ++ promoted).eraseDups }

/-- The tag object that the parent at a reference asks of a named component. -/
def tagOf? (d : Document) (name : String) (r : Ref) : Report NormalizeError (Option Node) := do
  let parent ← d.resolved Schema r
  return parent.discriminator.map fun discriminator =>
    Node.tagged discriminator.propertyName (discriminator.tagForName name)
      (parent.required.contains discriminator.propertyName)

/-- The nodes of a branch of an intersection. A branch that stands right there learns which of its
properties are required; a branch that is a reference may ask the component for a tag. -/
def allOfBranch (d : Document) (normalize : Normalizer) (component : Option String) (s : Schema)
    (location : String) : RefOr Schema × Nat → Report NormalizeError (List Node)
  | (.inline t, i) => do
    let n ← normalize (.inline t) (locate location ["allOf", toString i])
    return [promote s.required n]
  | (.ref r, i) => do
    let n ← normalize (.ref r) (locate location ["allOf", toString i])
    let tag ←
      match component with
      | some name => tagOf? d name r
      | none => pure none
    return n :: tag.toList

/-- The node of a required property that a schema takes over from its first ancestor that declares
it, if there is one and the property is not among those at hand. -/
def inheritedNode (d : Document) (normalize : Normalizer) (s : Schema) (location : String)
    (properties : Dict Node) (name : String) : Report NormalizeError (Dict Node) :=
  if properties.has name then pure properties
  else
    match d.inheritedProperty? s location name with
    | none => pure properties
    | some found => do
      return properties.insert name (← normalize found.property found.location)

/-- Takes over the required properties that are missing. -/
def takeOver (d : Document) (normalize : Normalizer) (s : Schema) (location : String) :
    Dict Node → List String → Report NormalizeError (Dict Node)
  | properties, [] => pure properties
  | properties, name :: rest => do
    takeOver d normalize s location
      (← s.inheritedNode d normalize location properties name) rest

/-- The node of an intersection's own properties, with the required properties that it takes over,
if there are any. -/
def ownShape (d : Document) (normalize : Normalizer) (s : Schema) (location : String) :
    Report NormalizeError (List Node) :=
  if s.infersObject then do
    let declared ← s.propertyNodes normalize location
    let properties ← s.takeOver d normalize location declared s.required
    let shape ← s.objectNode normalize location properties
    return if shape.properties.isEmpty then [] else [shape]
  else pure []

/-- The union of a node with null. The documentation moves to the union. -/
def orNull (n : Node) : Node :=
  let docs := { n.docs with default := none }
  let bare := { n with docs := { default := n.docs.default } }
  Node.dedupe { Node.composition .or [bare, Node.ofType .null] with docs }

/-- The node of an intersection. -/
def intersection (d : Document) (normalize : Normalizer) (component : Option String) (s : Schema)
    (location : String) (branches : List (RefOr Schema)) : Report NormalizeError Node := do
  let items ← Report.traverse (s.allOfBranch d normalize component location) branches.zipIdx
  let shape ← s.ownShape d normalize location
  let n := Node.dedupe { Node.composition .and (items.flatten ++ shape) with docs := s.docs }
  return if s.isNullable then orNull n else n

/-- The keyword of a union, and whether unions right inside it are lifted into it. -/
structure UnionKind where
  keyword : String
  lifts : Bool

/-- The nodes of a branch of a union. With a discriminator, a branch that is a reference is combined
with its tag. -/
def unionBranch (normalize : Normalizer) (kind : UnionKind) (s : Schema) (location : String) :
    RefOr Schema × Nat → Report NormalizeError (List Node)
  | (place, i) => do
    let n ← normalize place (locate location [kind.keyword, toString i])
    let n :=
      match s.discriminator, place with
      | some discriminator, .ref r =>
        let tag := Node.tagged discriminator.propertyName (discriminator.tagForRef r) false
        Node.composition .and [tag, n]
      | _, _ => n
    return if kind.lifts && n.operator == some .or then n.items else [n]

/-- The node of a union, intersected with the union's own properties if there are any. -/
def union (normalize : Normalizer) (kind : UnionKind) (s : Schema) (location : String)
    (branches : List (RefOr Schema)) : Report NormalizeError Node := do
  let items ← Report.traverse (s.unionBranch normalize kind location) branches.zipIdx
  let null := if s.isNullable then [Node.ofType .null] else []
  let n := Node.dedupe { Node.composition .or (items.flatten ++ null) with docs := s.docs }
  if s.properties.isSome then do
    let properties ← s.propertyNodes normalize location
    let shape ← s.objectNode normalize location properties
    return if shape.properties.isEmpty then n else Node.composition .and [n, shape]
  else return n

/-- The node of a schema whose type is not known. -/
def untyped (s : Schema) : Node :=
  { type := some .unknown, docs := s.docs, constraints := s.constraints }

/-- The node of a schema, given how the schemas that it leads to become nodes. -/
def normalizeLayer (d : Document) (normalize : Normalizer) (component : Option String) (s : Schema)
    (location : String) : Report NormalizeError Node :=
  match s.form with
  | .enum values => s.enumeration location values
  | .allOf branches => s.intersection d normalize component location branches
  | .anyOf branches => s.union normalize ⟨"anyOf", false⟩ location branches
  | .oneOf branches => s.union normalize ⟨"oneOf", true⟩ location branches
  | .typed => s.typed normalize location
  | .untyped => pure s.untyped

end Schema

namespace Document

/-- The node that stands for a reference. The reference must resolve. -/
def referenceNode (d : Document) (r : Ref) : Report NormalizeError Node := do
  let _ ← d.resolved Schema r
  return Node.ofReference r.normalized

/-- The node of the schema at a place, within some steps. Only the schema of a named component knows
the component's name. -/
def normalizeWithin (d : Document) : (steps : Nat) → (component : Option String) → Normalizer
  | _, _, .ref r, _ => d.referenceNode r
  | 0, _, .inline _, _ => .fail .endless
  | steps + 1, component, .inline s, location =>
    s.normalizeLayer d (d.normalizeWithin steps none) component location

/-- As many steps as there are schemas at a place and in a document. -/
def stepsFor (d : Document) (place : RefOr Schema) : Nat :=
  (Schema.nestedPlace place).length + d.nestedSchemas.length

/-- The node of the schema at a place, which lies at a location. -/
def normalizeSchema (d : Document) : Normalizer := fun place location =>
  d.normalizeWithin (d.stepsFor place) none place location

/-- The node of a named component. -/
def normalizeComponent (d : Document) (name : String) : Normalizer := fun place location =>
  d.normalizeWithin (d.stepsFor place) (some name) place location

end Document

end ApiShape
