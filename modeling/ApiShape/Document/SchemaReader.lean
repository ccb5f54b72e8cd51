import ApiShape.Document.Schema
import ApiShape.Source.Reader

/-!
# Reading schemas

A schema stands where a reference to one may stand as well. Which of the two it is shows only when
the whole source is there, so the source is settled first, and what is wrong inside is not told
apart. A settled source is read from the inside out: every part is read as everything that the
whole could need it for.
-/

namespace ApiShape

/-- The reference that a source is: a record whose only known field is the text of the reference. -/
def Ref.read : Reader Ref :=
  Reader.record ["$ref"] fun r => Ref.mk <$> r.required "$ref" Reader.text

/-- Reads a value where a reference to one may stand as well. -/
def RefOr.read (read : Reader α) : Reader (RefOr α) := fun s =>
  match s.settle with
  | .error .malformed => .error .malformed
  | .error (.mismatch _) => Reader.mismatch
  | .ok s =>
    match Ref.read s, read s with
    | .ok r, _ => .ok (.ref r)
    | .error _, .ok a => .ok (.inline a)
    | .error _, .error _ => Reader.mismatch

/-- Reads the mapping of a discriminator and the property that it goes by. -/
def Discriminator.read : Reader Discriminator :=
  Reader.record ["propertyName", "mapping"] fun r =>
    Discriminator.mk <$> r.required "propertyName" Reader.text
      <*> r.field "mapping" (Reader.dict Reader.text) []

/-- The type that a value names. -/
def SchemaType.ofJson : Json → SchemaType
  | .string s => .ofName s
  | _ => .other

/-- The types that the value of a `type` field names: one, or a list. -/
def SchemaType.listOfJson : Json → List SchemaType
  | .array items => items.map SchemaType.ofJson
  | j => [.ofJson j]

/-- The names that the value of a `required` field lists. What is no list of names has none. -/
def requiredOfJson : Json → List String
  | .array items => items.filterMap (·.string?)
  | _ => []

/-- Reads the types of a schema. -/
def SchemaType.read : Reader (List SchemaType) := fun s =>
  s.json.map SchemaType.listOfJson

/-- Reads an exclusive bound. -/
def ExclusiveBound.read : Reader ExclusiveBound := fun s =>
  match Reader.flag s with
  | .ok b => .ok (.flag b)
  | .error _ => (Reader.number s).map .value

namespace Schema

/-- A settled source, with the schemas that it can be read as: one, a list, or named ones. -/
structure Readings where
  source : Source
  schema : Option (RefOr Schema)
  list : Option (List (RefOr Schema))
  dict : Option (List (String × RefOr Schema))

/-- The fields that mean something in a schema. -/
def fieldNames : List String :=
  ["type", "format", "title", "description", "deprecated", "nullable", "default", "minimum",
    "maximum", "exclusiveMinimum", "exclusiveMaximum", "minLength", "maxLength", "pattern",
    "minItems", "maxItems", "readOnly", "writeOnly", "properties", "required",
    "additionalProperties", "items", "enum", "const", "allOf", "anyOf", "oneOf", "discriminator"]

/-- Reads a field from its source. An absent field has a value of its own. -/
def field (fields : List (String × Readings)) (name : String) (read : Reader α) (absent : α) :
    Option α :=
  match Dict.get? fields name with
  | none => some absent
  | some r => (read r.source).toOption

/-- Reads a field that may be absent or null. -/
def optionalField (fields : List (String × Readings)) (name : String) (read : Reader α) :
    Option (Option α) :=
  field fields name (Reader.optional read) none

/-- A field that holds schemas, and may be absent or null. -/
def part (fields : List (String × Readings)) (name : String) (select : Readings → Option α) :
    Option (Option α) :=
  match Dict.get? fields name with
  | none => some none
  | some r => if r.source.isNull then some none else (select r).map some

/-- What a field says about additional properties. -/
def additionalOf (r : Readings) : Option (Additional (RefOr Schema)) :=
  match Reader.flag r.source with
  | .ok b => some (.flag b)
  | .error _ => r.schema.map .schema

/-- The fields that mean nothing in a schema. -/
def extensionsOf (fields : List (String × Readings)) : Option (Dict Json) := do
  let unknown := fields.filter fun (name, _) => !fieldNames.contains name
  return Dict.ofList (← unknown.mapM fun (name, r) => r.source.json.toOption.map (name, ·))

/-- A schema from its fields. A field that means something must not be repeated. -/
def ofFields (fields : List (String × Readings)) : Option Schema := do
  if ¬ ((fields.map (·.1)).filter fieldNames.contains).Nodup then none
  return {
    types := ← field fields "type" SchemaType.read []
    format := ← optionalField fields "format" Reader.text
    title := ← optionalField fields "title" Reader.text
    description := ← optionalField fields "description" Reader.text
    deprecated := ← optionalField fields "deprecated" Reader.flag
    nullable := ← field fields "nullable" Reader.flag false
    default := ← field fields "default" (fun s => s.json.map some) none
    minimum := ← optionalField fields "minimum" Reader.number
    maximum := ← optionalField fields "maximum" Reader.number
    exclusiveMinimum := ← optionalField fields "exclusiveMinimum" ExclusiveBound.read
    exclusiveMaximum := ← optionalField fields "exclusiveMaximum" ExclusiveBound.read
    minLength := ← optionalField fields "minLength" Reader.nat
    maxLength := ← optionalField fields "maxLength" Reader.nat
    pattern := ← optionalField fields "pattern" Reader.text
    minItems := ← optionalField fields "minItems" Reader.nat
    maxItems := ← optionalField fields "maxItems" Reader.nat
    readOnly := ← field fields "readOnly" Reader.flag false
    writeOnly := ← field fields "writeOnly" Reader.flag false
    properties := ← part fields "properties" (·.dict)
    required := ← field fields "required" (fun s => s.json.map requiredOfJson) []
    additional := ← part fields "additionalProperties" additionalOf
    items := ← part fields "items" (·.schema)
    enum := ← optionalField fields "enum" (Reader.list Reader.json)
    const := ← field fields "const" (fun s => s.json.map some) none
    allOf := ← part fields "allOf" (·.list)
    anyOf := ← part fields "anyOf" (·.list)
    oneOf := ← part fields "oneOf" (·.list)
    discriminator := ← optionalField fields "discriminator" Discriminator.read
    extensions := ← extensionsOf fields }

/-- Entries by the text of their keys. -/
def named? (entries : List (Leaf × Readings)) : Option (List (String × Readings)) :=
  entries.mapM fun (k, r) => k.written.map (·, r)

/-- The named schemas that entries hold. -/
def dictOf (entries : List (String × Readings)) : Option (List (String × RefOr Schema)) := do
  return Dict.ofList (← entries.mapM fun (name, r) => r.schema.map (name, ·))

/-- What a mapping can be read as, when its parts are. -/
def readingsOfMapping (entries : List (Leaf × Source)) (parts : List (Leaf × Readings)) :
    Readings :=
  { source := .mapping entries
    schema :=
      match Ref.read (.mapping entries) with
      | .ok r => some (.ref r)
      | .error _ => ((named? parts).bind ofFields).map .inline
    list := none
    dict := (named? parts).bind dictOf }

/-- What a list can be read as, when its items are. -/
def readingsOfList (items : List Source) (parts : List Readings) : Readings :=
  { source := .list true items
    schema := (Ref.read (.list true items)).toOption.map .ref
    list := parts.mapM (·.schema)
    dict := none }

mutual

/-- What a settled source can be read as. -/
def readings : Source → Readings
  | .list _ items => readingsOfList items (readingsItems items)
  | .mapping entries => readingsOfMapping entries (readingsEntries entries)
  | s => ⟨s, none, none, none⟩

/-- What items can be read as. -/
def readingsItems : List Source → List Readings
  | [] => []
  | s :: rest => readings s :: readingsItems rest

/-- What entries can be read as. -/
def readingsEntries : List (Leaf × Source) → List (Leaf × Readings)
  | [] => []
  | (k, s) :: rest => (k, readings s) :: readingsEntries rest

end

/-- Reads a schema or a reference to one. -/
def read : Reader (RefOr Schema) := fun s =>
  match s.settle with
  | .error .malformed => .error .malformed
  | .error (.mismatch _) => Reader.mismatch
  | .ok s =>
    match (readings s).schema with
    | some schema => .ok schema
    | none => Reader.mismatch

end Schema

end ApiShape
