import ApiShape.Document.Basic
import ApiShape.Json.Pointee

/-!
# Pointers into documents

What a pointer can lead to in a document. A value that stands where a reference may stand, and a
value that need not be there, are led to as themselves; a reference is not followed, and has no
parts.
-/

namespace ApiShape

/-- The kinds of parts that references point at. -/
inductive ComponentKind where
  | schema
  | parameter
  | requestBody
  | response
  deriving DecidableEq, Repr

/-- The name of a kind. -/
def ComponentKind.name : ComponentKind → String
  | .schema => "schema"
  | .parameter => "parameter"
  | .requestBody => "request body"
  | .response => "response"

open Document in
/-- A part of a document. -/
inductive Target where
  | document (d : Document)
  | components (c : Components)
  | pathItem (p : PathItem)
  | operation (o : Operation)
  | parameter (p : Parameter)
  | requestBody (b : RequestBody)
  | response (r : Response)
  | mediaType (m : Document.MediaType)
  | schema (s : Schema)
  | securityScheme (s : SecurityScheme)
  /-- Additional properties that are simply allowed or not. -/
  | additionalFlag (b : Bool)
  /-- A reference where a part of some kind is expected. -/
  | reference (kind : ComponentKind) (r : Ref)
  /-- A value of an enum, or inside one. -/
  | value (j : Json)
  | pathItems (named : List (String × PathItem))
  | schemas (named : List (String × RefOr Schema))
  | parameters (named : List (String × Parameter))
  | responses (named : List (String × Response))
  | operationResponses (named : List (String × RefOr Response))
  | requestBodies (named : List (String × RequestBody))
  | content (named : List (String × Document.MediaType))
  | securitySchemes (named : List (String × SecurityScheme))
  | schemaList (places : List (RefOr Schema))
  | parameterList (places : List (RefOr Parameter))
  | values (items : List Json)
  /-- A value that need not be there and is not. -/
  | absent
  deriving Inhabited

namespace Target

/-- The part at a place where a reference may stand. -/
def atPlace (kind : ComponentKind) (part : α → Target) : RefOr α → Target
  | .ref r => .reference kind r
  | .inline a => part a

/-- The part that a value need not be there for. -/
def ofOption (part : α → Target) : Option α → Target
  | some a => part a
  | none => .absent

/-- The part at a place for a schema. -/
def atSchema : RefOr Schema → Target :=
  atPlace .schema .schema

/-- The part at a place for a parameter. -/
def atParameter : RefOr Document.Parameter → Target :=
  atPlace .parameter .parameter

/-- What a schema says about additional properties. -/
def ofAdditional : Additional (RefOr Schema) → Target
  | .flag b => .additionalFlag b
  | .schema place => atSchema place

/-- Entries as parts. -/
def entries (part : α → Target) (named : List (String × α)) : Dict Target :=
  named.map fun (name, a) => (name, part a)

/-- How a part of a document looks to a pointer. -/
def view : Target → View Target
  | .document d => .keyed [
      ("paths", .pathItems d.paths),
      ("components", ofOption .components d.components),
      ("definitions", .schemas d.definitions),
      ("parameters", .parameters d.parameters),
      ("responses", .responses d.responses),
      ("securityDefinitions", .securitySchemes d.securityDefinitions)]
  | .components c => .keyed [
      ("schemas", .schemas c.schemas),
      ("responses", .responses c.responses),
      ("parameters", .parameters c.parameters),
      ("requestBodies", .requestBodies c.requestBodies),
      ("securitySchemes", .securitySchemes c.securitySchemes)]
  | .pathItem p => .keyed [
      ("get", ofOption .operation p.get),
      ("put", ofOption .operation p.put),
      ("post", ofOption .operation p.post),
      ("delete", ofOption .operation p.delete),
      ("options", ofOption .operation p.options),
      ("head", ofOption .operation p.head),
      ("patch", ofOption .operation p.patch),
      ("trace", ofOption .operation p.trace),
      ("parameters", .parameterList p.parameters)]
  | .operation o => .keyed [
      ("parameters", .parameterList o.parameters),
      ("requestBody", ofOption (atPlace .requestBody .requestBody) o.requestBody),
      ("responses", .operationResponses o.responses)]
  | .parameter p => .keyed [
      ("schema", ofOption atSchema p.schema),
      ("items", ofOption atSchema p.items)]
  | .requestBody b => .keyed [("content", .content b.content)]
  | .response r => .keyed [
      ("content", ofOption .content r.content),
      ("schema", ofOption atSchema r.schema)]
  | .mediaType m => .keyed [("schema", ofOption atSchema m.schema)]
  | .schema s => .keyed [
      ("properties", ofOption .schemas s.properties),
      ("additionalProperties", ofOption ofAdditional s.additional),
      ("items", ofOption atSchema s.items),
      ("enum", ofOption .values s.enum),
      ("allOf", ofOption .schemaList s.allOf),
      ("anyOf", ofOption .schemaList s.anyOf),
      ("oneOf", ofOption .schemaList s.oneOf)]
  | .securityScheme _ => .leaf "security scheme"
  | .additionalFlag _ => .leaf "boolean"
  | .reference _ _ => .leaf "reference"
  | .value j =>
    match Pointee.view j with
    | .keyed fields => .keyed (entries .value fields)
    | .indexed items => .indexed (items.map .value)
    | .leaf kind => .leaf kind
    | .absent => .absent
  | .pathItems named => .keyed (entries .pathItem named)
  | .schemas named => .keyed (entries atSchema named)
  | .parameters named => .keyed (entries .parameter named)
  | .responses named => .keyed (entries .response named)
  | .operationResponses named => .keyed (entries (atPlace .response .response) named)
  | .requestBodies named => .keyed (entries .requestBody named)
  | .content named => .keyed (entries .mediaType named)
  | .securitySchemes named => .keyed (entries .securityScheme named)
  | .schemaList places => .indexed (places.map atSchema)
  | .parameterList places => .indexed (places.map atParameter)
  | .values items => .indexed (items.map .value)
  | .absent => .absent

instance : Pointee Target := ⟨view⟩

end Target

end ApiShape
