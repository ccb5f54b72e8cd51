import ApiShape.Node.Basic

/-!
# Nodes as JSON

A node is written as an object of the fields that are present; documentation and validation
keywords stand beside the others. A null that is given as a constant or a default is present.
-/

namespace ApiShape

/-- The name of a node type. -/
def NodeType.name : NodeType → String
  | .string => "string"
  | .number => "number"
  | .boolean => "boolean"
  | .object => "object"
  | .array => "array"
  | .tuple => "tuple"
  | .enum => "enum"
  | .null => "null"
  | .unknown => "unknown"
  | .never => "never"
  | .void => "void"

/-- The node type of a name. -/
def NodeType.ofName? : String → Option NodeType
  | "string" => some .string
  | "number" => some .number
  | "boolean" => some .boolean
  | "object" => some .object
  | "array" => some .array
  | "tuple" => some .tuple
  | "enum" => some .enum
  | "null" => some .null
  | "unknown" => some .unknown
  | "never" => some .never
  | "void" => some .void
  | _ => none

/-- The name of an operator. -/
def Operator.name : Operator → String
  | .and => "and"
  | .or => "or"

/-- The operator of a name. -/
def Operator.ofName? : String → Option Operator
  | "and" => some .and
  | "or" => some .or
  | _ => none

/-- The name of an access scope. -/
def AccessScope.name : AccessScope → String
  | .read => "read"
  | .write => "write"

/-- The access scope of a name. -/
def AccessScope.ofName? : String → Option AccessScope
  | "read" => some .read
  | "write" => some .write
  | _ => none

namespace Json

/-- A field of an object, if there is a value for it. -/
def optional (name : String) (value : Option Json) : List (String × Json) :=
  match value with
  | some j => [(name, j)]
  | none => []

/-- An array of strings. -/
def ofStrings (names : List String) : Json :=
  .array (names.map .string)

/-- A natural number. -/
def ofNat (n : Nat) : Json :=
  .number (.int n)

/-- The value as a list of strings. -/
def strings? (j : Json) : Option (List String) := do
  (← j.array?).mapM string?

/-- The value as a number. -/
def number? : Json → Option Number
  | .number n => some n
  | _ => none

/-- The value as a natural number of 64 bits. -/
def nat? (j : Json) : Option Nat :=
  j.number?.bind (·.nat?)

end Json

/-- The fields of documentation that are present. -/
def Docs.fields (d : Docs) : List (String × Json) :=
  Json.optional "description" (d.description.map .string) ++
  Json.optional "title" (d.title.map .string) ++
  Json.optional "deprecated" (d.deprecated.map .bool) ++
  Json.optional "default" d.default

/-- The validation keywords that are present. -/
def Constraints.fields (c : Constraints) : List (String × Json) :=
  Json.optional "format" (c.format.map .string) ++
  Json.optional "pattern" (c.pattern.map .string) ++
  Json.optional "minimum" (c.minimum.map .number) ++
  Json.optional "maximum" (c.maximum.map .number) ++
  Json.optional "exclusiveMinimum" (c.exclusiveMinimum.map .number) ++
  Json.optional "exclusiveMaximum" (c.exclusiveMaximum.map .number) ++
  Json.optional "minLength" (c.minLength.map Json.ofNat) ++
  Json.optional "maxLength" (c.maxLength.map Json.ofNat) ++
  Json.optional "minItems" (c.minItems.map Json.ofNat) ++
  Json.optional "maxItems" (c.maxItems.map Json.ofNat) ++
  Json.optional "accessScope" (c.accessScope.map fun s => .string s.name)

namespace Node

/-- An array that is left out when it is empty. -/
def arrayField (name : String) (items : List Json) : List (String × Json) :=
  if items.isEmpty then [] else [(name, .array items)]

/-- An object that is left out when it is empty. -/
def objectField (name : String) (fields : List (String × Json)) : List (String × Json) :=
  if fields.isEmpty then [] else [(name, .object fields)]

mutual

/-- The node as an object. -/
def json : Node → Json
  | ⟨reference, type, items, operator, properties, required, additional, const, docs,
      constraints⟩ =>
    .object <|
      Json.optional "$ref" (reference.map .string) ++
      Json.optional "type" (type.map fun t => .string t.name) ++
      arrayField "items" (jsonItems items) ++
      Json.optional "logicalOperator" (operator.map fun o => .string o.name) ++
      objectField "properties" (jsonProperties properties) ++
      arrayField "required" (required.map .string) ++
      jsonAdditional additional ++
      Json.optional "const" const ++
      docs.fields ++ constraints.fields

/-- Nodes as objects. -/
def jsonItems : List Node → List Json
  | [] => []
  | n :: rest => json n :: jsonItems rest

/-- Named nodes as objects. -/
def jsonProperties : List (String × Node) → List (String × Json)
  | [] => []
  | (name, n) :: rest => (name, json n) :: jsonProperties rest

/-- The field of the additional properties, if they are present. -/
def jsonAdditional : Option Node → List (String × Json)
  | none => []
  | some n => [("additionalProperties", json n)]

end

/-- The documentation that an object holds. -/
def docsOf (fields : Dict Json) : Docs :=
  { description := (fields.get? "description").bind (·.string?)
    title := (fields.get? "title").bind (·.string?)
    deprecated := (fields.get? "deprecated").bind (·.bool?)
    default := fields.get? "default" }

/-- The validation keywords that an object holds. -/
def constraintsOf (fields : Dict Json) : Constraints :=
  let string (name : String) := (fields.get? name).bind (·.string?)
  let number (name : String) := (fields.get? name).bind (·.number?)
  let nat (name : String) := (fields.get? name).bind (·.nat?)
  { format := string "format"
    pattern := string "pattern"
    minimum := number "minimum"
    maximum := number "maximum"
    exclusiveMinimum := number "exclusiveMinimum"
    exclusiveMaximum := number "exclusiveMaximum"
    minLength := nat "minLength"
    maxLength := nat "maxLength"
    minItems := nat "minItems"
    maxItems := nat "maxItems"
    accessScope := (string "accessScope").bind AccessScope.ofName? }

/-- A JSON value, with the nodes that it can be read as: a node, items, or properties. -/
structure Readings where
  json : Json
  node : Node
  items : List Node
  properties : List (String × Node)

/-- A node from the fields of an object. -/
def ofReadings (fields : Dict Readings) : Node :=
  let plain : Dict Json := fields.map fun (k, r) => (k, r.json)
  let string (name : String) := (plain.get? name).bind (·.string?)
  { reference := string "$ref"
    type := (string "type").bind NodeType.ofName?
    items := ((fields.get? "items").map (·.items)).getD []
    operator := (string "logicalOperator").bind Operator.ofName?
    properties := ((fields.get? "properties").map (·.properties)).getD []
    required := (((plain.get? "required").bind (·.strings?)).getD []).eraseDups
    additional := (fields.get? "additionalProperties").map (·.node)
    const := plain.get? "const"
    docs := docsOf plain
    constraints := constraintsOf plain }

mutual

/-- The nodes that a JSON value can be read as. -/
def readings : Json → Readings
  | .array items => ⟨.array items, empty, (readingsItems items).map (·.node), []⟩
  | .object fields =>
    let rs := readingsFields fields
    ⟨.object fields, ofReadings rs, [], rs.map fun (k, r) => (k, r.node)⟩
  | .null => ⟨.null, empty, [], []⟩
  | .bool b => ⟨.bool b, empty, [], []⟩
  | .number n => ⟨.number n, empty, [], []⟩
  | .string s => ⟨.string s, empty, [], []⟩

/-- The nodes that items can be read as. -/
def readingsItems : List Json → List Readings
  | [] => []
  | j :: rest => readings j :: readingsItems rest

/-- The nodes that fields can be read as. -/
def readingsFields : List (String × Json) → List (String × Readings)
  | [] => []
  | (k, j) :: rest => (k, readings j) :: readingsFields rest

end

/-- The node that an object holds, with exactly the fields that it has. -/
def ofJson (j : Json) : Node :=
  (readings j).node

end Node

end ApiShape
