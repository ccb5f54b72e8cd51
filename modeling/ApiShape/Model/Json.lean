import ApiShape.Diagnostic
import ApiShape.Model.Basic
import ApiShape.Node.Json

/-!
# Normalized documents as JSON

Absent values, empty lists and empty maps are left out.
-/

namespace ApiShape

/-- The document's information as an object. -/
def Info.json (i : Info) : Json :=
  .object <|
    [("title", .string i.title)] ++
    Json.optional "description" (i.description.map .string) ++
    [("version", .string i.version)]

/-- The name of a kind of encoding. -/
def MediaKind.name : MediaKind → String
  | .json => "json"
  | .formData => "form-data"
  | .urlSearchParams => "url-search-params"
  | .text => "text"
  | .octetStream => "octet-stream"

/-- A diagnostic as an object. -/
def Diagnostic.json (d : Diagnostic) : Json :=
  .object [("kind", .string d.kind.name), ("message", .string d.message),
    ("location", .string d.location)]

namespace Model

/-- A parameter as an object. -/
def Parameter.json (p : Parameter) : Json :=
  .object <|
    [("name", .string p.name), ("location", .string p.location.name),
      ("required", .bool p.required)] ++
    Json.optional "deprecated" (p.deprecated.map .bool) ++
    Json.optional "description" (p.description.map .string) ++
    Json.optional "style" (p.style.map fun s => .string s.name) ++
    Json.optional "explode" (p.explode.map .bool) ++
    Json.optional "allowReserved" (p.allowReserved.map .bool) ++
    [("schema", p.schema.json)]

/-- A body as an object. -/
def Body.json (b : Body) : Json :=
  .object <|
    [("mediaType", .string b.mediaType)] ++
    Json.optional "type" (b.kind.map fun k => .string k.name) ++
    [("schema", b.schema.json), ("required", .bool b.required)]

/-- A response as an object. -/
def Response.json (r : Response) : Json :=
  .object <|
    Json.optional "mediaType" (r.mediaType.map .string) ++ [("schema", r.schema.json)]

/-- A security scheme as an object. -/
def SecurityScheme.json : SecurityScheme → Json
  | .apiKey name location description =>
    .object <|
      [("type", .string "apiKey"), ("name", .string name), ("in", .string location)] ++
      Json.optional "description" (description.map .string)
  | .http scheme bearerFormat description =>
    .object <|
      [("type", .string "http"), ("scheme", .string scheme)] ++
      Json.optional "bearerFormat" (bearerFormat.map .string) ++
      Json.optional "description" (description.map .string)
  | .oauth2 flows description =>
    .object <|
      [("type", .string "oauth2"), ("flows", Json.ofStrings flows)] ++
      Json.optional "description" (description.map .string)
  | .openIdConnect url description =>
    .object <|
      [("type", .string "openIdConnect"), ("openIdConnectUrl", .string url)] ++
      Json.optional "description" (description.map .string)

/-- A response map as an object. -/
def ResponseMap.json (m : ResponseMap) : Json :=
  .object <|
    Json.optional "responses" (m.responses.map (·.json)) ++
    Json.optional "response" (m.response.map (·.json)) ++
    Json.optional "errors" (m.errors.map (·.json)) ++
    Json.optional "error" (m.error.map (·.json))

/-- An operation as an object. -/
def Operation.json (o : Operation) : Json :=
  .object <|
    [("id", .string o.id), ("method", .string o.method.name), ("path", .string o.path)] ++
    Node.arrayField "pathParams" (o.pathParams.map .string) ++
    Json.optional "summary" (o.summary.map .string) ++
    Json.optional "description" (o.description.map .string) ++
    Json.optional "deprecated" (o.deprecated.map .bool) ++
    Node.arrayField "tags" (o.tags.map .string) ++
    Node.arrayField "parameters" (o.parameters.map (·.json)) ++
    Json.optional "body" (o.body.map (·.json)) ++
    Node.objectField "responses" (o.responses.map fun (code, r) => (code, r.json)) ++
    Node.arrayField "security" (o.security.map (·.json)) ++
    [("responseMap", o.responseMap.json)]

/-- A normalized document as an object. -/
def json (m : Model) : Json :=
  .object [
    ("info", m.info.json),
    ("components", .object [
      ("schemas", .object (m.schemas.map fun (name, n) => (name, n.json)))]),
    ("paths", .object (m.paths.map fun (path, os) =>
      (path, .object (os.map fun o => (o.method.name, o.json)))))]

end Model

end ApiShape
