import ApiShape.Document.Basic

/-!
# The parts of documents

Everything that a document holds at any depth: its schemas, and the texts of its references. There
are finitely many of both, which bounds every search that goes from reference to reference.
-/

namespace ApiShape

namespace Schema

mutual

/-- The schema and all the schemas inside it. -/
def nested : Schema → List Schema
  | ⟨types, format, title, description, deprecated, nullable, default, minimum, maximum,
      exclusiveMinimum, exclusiveMaximum, minLength, maxLength, pattern, minItems, maxItems,
      readOnly, writeOnly, properties, required, additional, items, enum, const, allOf, anyOf,
      oneOf, discriminator, extensions⟩ =>
    ⟨types, format, title, description, deprecated, nullable, default, minimum, maximum,
      exclusiveMinimum, exclusiveMaximum, minLength, maxLength, pattern, minItems, maxItems,
      readOnly, writeOnly, properties, required, additional, items, enum, const, allOf, anyOf,
      oneOf, discriminator, extensions⟩ ::
      (nestedNamed? properties ++ nestedAdditional additional ++ nestedPlace? items ++
        nestedPlaces? allOf ++ nestedPlaces? anyOf ++ nestedPlaces? oneOf)

/-- The schemas at a place. -/
def nestedPlace : RefOr Schema → List Schema
  | .ref _ => []
  | .inline s => nested s

/-- The schemas at some places. -/
def nestedPlaces : List (RefOr Schema) → List Schema
  | [] => []
  | place :: rest => nestedPlace place ++ nestedPlaces rest

/-- The schemas at named places. -/
def nestedNamed : List (String × RefOr Schema) → List Schema
  | [] => []
  | (_, place) :: rest => nestedPlace place ++ nestedNamed rest

/-- The schemas at a place that need not be there. -/
def nestedPlace? : Option (RefOr Schema) → List Schema
  | none => []
  | some place => nestedPlace place

/-- The schemas at some places that need not be there. -/
def nestedPlaces? : Option (List (RefOr Schema)) → List Schema
  | none => []
  | some places => nestedPlaces places

/-- The schemas at named places that need not be there. -/
def nestedNamed? : Option (List (String × RefOr Schema)) → List Schema
  | none => []
  | some named => nestedNamed named

/-- The schemas in what is said about additional properties. -/
def nestedAdditional : Option (Additional (RefOr Schema)) → List Schema
  | none | some (.flag _) => []
  | some (.schema place) => nestedPlace place

end

/-- The references at a place and inside the schema there. -/
def references (place : RefOr Schema) : List Ref :=
  place.ref?.toList ++ (nestedPlace place).flatMap fun s => s.parts.filterMap RefOr.ref?

end Schema

namespace Document

/-- The places for schemas in a parameter. -/
def Parameter.places (p : Parameter) : List (RefOr Schema) :=
  p.schema.toList ++ p.items.toList

/-- The places for schemas in what is sent under media types. -/
def contentPlaces (content : List (String × MediaType)) : List (RefOr Schema) :=
  content.flatMap fun (_, m) => m.schema.toList

/-- The places for schemas in a response. -/
def Response.places (r : Response) : List (RefOr Schema) :=
  contentPlaces (r.content.getD []) ++ r.schema.toList

/-- The values that stand right at some places. -/
def inlineValues (places : List (RefOr α)) : List α :=
  places.filterMap RefOr.inline?

/-- The places for parameters in a document. -/
def parameterPlaces (d : Document) : List (RefOr Parameter) :=
  d.paths.flatMap fun (_, item) =>
    item.parameters ++ item.operations.flatMap fun (_, o) => o.parameters

/-- The places for request bodies in a document. -/
def bodyPlaces (d : Document) : List (RefOr RequestBody) :=
  d.paths.flatMap fun (_, item) => item.operations.flatMap fun (_, o) => o.requestBody.toList

/-- The places for responses in a document. -/
def responsePlaces (d : Document) : List (RefOr Response) :=
  d.paths.flatMap fun (_, item) => item.operations.flatMap fun (_, o) => o.responses.map (·.2)

/-- The places for schemas that lie in no schema. -/
def schemaPlaces (d : Document) : List (RefOr Schema) :=
  let c := d.components.getD {}
  let parameters :=
    c.parameters.map (·.2) ++ d.parameters.map (·.2) ++ inlineValues d.parameterPlaces
  let bodies := c.requestBodies.map (·.2) ++ inlineValues d.bodyPlaces
  let responses :=
    c.responses.map (·.2) ++ d.responses.map (·.2) ++ inlineValues d.responsePlaces
  c.schemas.map (·.2) ++ d.definitions.map (·.2) ++ parameters.flatMap Parameter.places ++
    bodies.flatMap (fun b => contentPlaces b.content) ++ responses.flatMap Response.places

/-- The references of a document, at any depth. -/
def references (d : Document) : List Ref :=
  d.parameterPlaces.filterMap RefOr.ref? ++ d.bodyPlaces.filterMap RefOr.ref? ++
    d.responsePlaces.filterMap RefOr.ref? ++ d.schemaPlaces.flatMap Schema.references

/-- The schemas of a document, at any depth. -/
def nestedSchemas (d : Document) : List Schema :=
  d.schemaPlaces.flatMap Schema.nestedPlace

end Document

end ApiShape
