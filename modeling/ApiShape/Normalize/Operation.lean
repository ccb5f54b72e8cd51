import ApiShape.Config.Basic
import ApiShape.Model.Responses
import ApiShape.Normalize.Schema
import ApiShape.PathTemplate
import ApiShape.Text.WordCase

/-!
# Normalization of operations

How an operation of a document becomes an operation with everything resolved. Parameters of the
path are merged with those of the operation; the parameters of version 2 that describe a body become
a body; media types are picked by preference.
-/

namespace ApiShape

namespace Document

/-- An operation in its place, with what its normalization needs from around it. -/
structure Site where
  document : Document
  config : Config
  path : String
  pathParams : List String
  item : PathItem
  method : Method
  operation : Operation

namespace Site

/-- Where the path lies. -/
def pathLocation (s : Site) : String :=
  locate "#" ["paths", s.path]

/-- Where the operation lies. -/
def location (s : Site) : String :=
  locate s.pathLocation [s.method.name]

/-- The operation as it is called in messages. -/
def label (s : Site) : String :=
  s.method.name.map Char.toUpper ++ " " ++ s.path

/-- The ID of an operation that has none of its own: its method and path in camel case, with the
parameters after `by`. -/
def fallbackId (method : Method) (path : String) : String :=
  let spread (c : Char) : List Char :=
    if c = '\x7b' then " by ".toList else if c = '\x7d' then [' '] else [c]
  String.ofList (Text.lowerCamel (method.name.toList ++ ' ' :: path.toList.flatMap spread))

/-- The ID of the operation before repetitions are renamed. -/
def rawId (s : Site) : String :=
  s.operation.operationId.getD (fallbackId s.method s.path)

/-- A parameter, and where it lies. -/
structure Located where
  parameter : Parameter
  location : String

/-- The parameters have the same name and place. -/
def Located.sameKey (a b : Located) : Bool :=
  a.parameter.name == b.parameter.name && a.parameter.location == b.parameter.location

/-- Adds a parameter, in the place of one of the same name and place. -/
def mergeParameter : List Located → Located → List Located
  | [], p => [p]
  | q :: rest, p => if q.sameKey p then p :: rest else q :: mergeParameter rest p

/-- Some parameters of a location, with references resolved. -/
def locatedParameters (s : Site) (location : String) (places : List (RefOr Parameter)) :
    Report NormalizeError (List Located) :=
  Report.traverse
    (fun (place, i) => do
      let parameter ← s.document.valueAt Parameter place
      return ⟨parameter, locate location ["parameters", toString i]⟩)
    places.zipIdx

/-- The parameters of the path and of the operation. Of those with the same name and place the last
counts, at the position of the first. -/
def mergedParameters (s : Site) : Report NormalizeError (List Located) := do
  let ofPath ← s.locatedParameters s.pathLocation s.item.parameters
  let ofOperation ← s.locatedParameters s.location s.operation.parameters
  return (ofPath ++ ofOperation).foldl mergeParameter []

/-- The node of a parameter's schema. -/
def parameterNode (s : Site) (p : Located) : Report NormalizeError Node :=
  match p.parameter.schema? with
  | some place => s.document.normalizeSchema place (locate p.location ["schema"])
  | none => pure (.ofType .unknown)

/-- Where a parameter goes that is no part of a body. -/
def plainLocation? : ParameterLocation → Option Model.Location
  | .path => some .path
  | .query => some .query
  | .header => some .header
  | .cookie => some .cookie
  | .body | .formData => none

/-- The parameters that are no part of a body. -/
def parameters (s : Site) : List Located → Report NormalizeError (List Model.Parameter)
  | [] => pure []
  | p :: rest =>
    match plainLocation? p.parameter.location with
    | none => s.parameters rest
    | some location => do
      let schema ← s.parameterNode p
      let more ← s.parameters rest
      let parameter : Model.Parameter := {
        name := p.parameter.name
        location
        required := p.parameter.required
        deprecated := p.parameter.deprecated
        description := p.parameter.description
        style := p.parameter.style
        explode := p.parameter.explode
        allowReserved := p.parameter.allowReserved
        schema }
      return parameter :: more

/-- The node with a description, if it has none of its own. -/
def described (n : Node) (description : Option String) : Node :=
  { n with docs := { n.docs with description := n.docs.description <|> description } }

/-- The media types that the operation takes. -/
def consumes (s : Site) : List String :=
  s.operation.consumes.getD s.document.consumes

/-- The media types that the operation gives. -/
def produces (s : Site) : List String :=
  s.operation.produces.getD s.document.produces

/-- The preferred one of some media types. -/
def preferred (s : Site) (mediaTypes : List String) : String :=
  (s.config.pick? id mediaTypes).getD "application/json"

/-- The preferred entry of what may be sent. -/
def preferredContent? (s : Site) (content : List (String × MediaType)) :
    Option (String × MediaType) :=
  s.config.pick? (·.1) content

/-- The node of a schema that may be missing. -/
def nodeOr (s : Site) (otherwise : Node) (location : String) :
    Option (RefOr Schema) → Report NormalizeError Node
  | some place => s.document.normalizeSchema place location
  | none => pure otherwise

/-- The body that a request body describes, if it has any content. -/
def requestBody (s : Site) (place : RefOr RequestBody) :
    Report NormalizeError (Option Model.Body) := do
  let body ← s.document.valueAt RequestBody place
  match s.preferredContent? body.content with
  | none => return none
  | some (mediaType, content) =>
    let location := locate s.location ["requestBody", "content", mediaType, "schema"]
    let n ← s.nodeOr (.ofType .unknown) location content.schema
    return some {
      mediaType
      kind := ApiShape.MediaType.kind? mediaType
      schema := described n body.description
      required := body.required }

/-- The body that a body parameter describes. -/
def bodyOfParameter (s : Site) (p : Located) : Report NormalizeError Model.Body := do
  let mediaType := s.preferred s.consumes
  let n ← s.parameterNode p
  return {
    mediaType
    kind := ApiShape.MediaType.kind? mediaType
    schema := described n p.parameter.description
    required := p.parameter.required }

/-- The body must be sent in parts: the operation says so, or one of its fields is a file. -/
def isMultipart (s : Site) (form : List Located) : Bool :=
  s.consumes.any (fun m => m.map Char.toLower == "multipart/form-data") ||
    form.any fun p => p.parameter.types.contains .other

/-- The body that form parameters describe: an object with a property for each. -/
def bodyOfForm (s : Site) (form : List Located) : Report NormalizeError Model.Body := do
  let mediaType :=
    if s.isMultipart form then "multipart/form-data" else "application/x-www-form-urlencoded"
  let properties ← Report.traverse
    (fun p => do
      return (p.parameter.name, described (← s.parameterNode p) p.parameter.description)) form
  let required := ((form.filter (·.parameter.required)).map (·.parameter.name)).eraseDups
  return {
    mediaType
    kind := ApiShape.MediaType.kind? mediaType
    schema := { type := some .object, properties := Dict.ofList properties, required }
    required := !required.isEmpty }

/-- The body of the operation: its request body, or else what its parameters describe. -/
def body (s : Site) (merged : List Located) : Report NormalizeError (Option Model.Body) :=
  let ofKind (l : ParameterLocation) := merged.filter fun p => p.parameter.location == l
  match s.operation.requestBody, (ofKind .body).getLast?, ofKind .formData with
  | some place, _, _ => s.requestBody place
  | none, some p, _ => some <$> s.bodyOfParameter p
  | none, none, [] => pure none
  | none, none, form => some <$> s.bodyOfForm form

/-- What a response sends: the media type, the schema, and where the schema lies. -/
def responseContent (s : Site) (location : String) (r : Response) :
    Option String × Option (RefOr Schema) × String :=
  match r.content with
  | some content =>
    match s.preferredContent? content with
    | some (mediaType, m) =>
      (some mediaType, m.schema, locate location ["content", mediaType, "schema"])
    | none => (none, none, location)
  | none => (r.schema.map fun _ => s.preferred s.produces, r.schema, locate location ["schema"])

/-- A response under a code. One that sends nothing is void under 204. -/
def response (s : Site) (code : String) (place : RefOr Response) :
    Report NormalizeError Model.Response := do
  let r ← s.document.valueAt Response place
  let (mediaType, schema, location) :=
    s.responseContent (locate s.location ["responses", code]) r
  let nothing := if code = "204" then NodeType.void else .unknown
  let n ← s.nodeOr (.ofType nothing) location schema
  return { mediaType, schema := described n r.description }

/-- The responses of the operation. -/
def responses (s : Site) : Report NormalizeError (List (String × Model.Response)) :=
  Report.traverse (fun (code, place) => do return (code, ← s.response code place))
    s.operation.responses

/-- A security scheme of a supported type, with everything that the type needs. -/
def securityScheme? (s : SecurityScheme) : Option Model.SecurityScheme :=
  match s.type with
  | "apiKey" => do return .apiKey (← s.name) (← s.location) s.description
  | "http" => do return .http ((← s.scheme).map Char.toLower) s.bearerFormat s.description
  | "basic" => some (.http "basic" none s.description)
  | "oauth2" =>
    let flows :=
      match s.flow with
      | some flow => [flow]
      | none => Dict.keys s.flows
    some (.oauth2 flows s.description)
  | "openIdConnect" => do return .openIdConnect (← s.openIdConnectUrl) s.description
  | _ => none

/-- The scheme of a name that is required at a location, or a diagnostic. -/
def requiredScheme (s : Site) (location name : String) :
    Report NormalizeError (List Model.SecurityScheme) :=
  match s.document.securityScheme? name with
  | none => do
    Report.record .unknownSecurityScheme location
      ("security scheme `" ++ name ++ "` isn't defined")
    return []
  | some scheme =>
    match securityScheme? scheme with
    | some converted => return [converted]
    | none => do
      Report.record .unknownSecurityScheme location
        ("security scheme `" ++ name ++ "` has unsupported type `" ++ scheme.type ++ "`")
      return []

/-- The names that security requirements list, each with the location of its requirement. -/
def requiredNames (location : String) (requirements : List SecurityRequirement) :
    List (String × String) :=
  requirements.zipIdx.flatMap fun (requirement, i) =>
    (Dict.keys requirement).map (·, locate location [toString i])

/-- The names that are not among `seen`, each the first time that it comes. -/
def firstMentions (seen : List String) : List (String × String) → List (String × String)
  | [] => []
  | (name, location) :: rest =>
    if seen.contains name then firstMentions seen rest
    else (name, location) :: firstMentions (name :: seen) rest

/-- The security schemes that the operation, or else the document, requires. -/
def security (s : Site) : Report NormalizeError (List Model.SecurityScheme) :=
  let (requirements, location) :=
    match s.operation.security with
    | some requirements => (requirements, locate s.location ["security"])
    | none => (s.document.security.getD [], "#/security")
  List.flatten <$> Report.traverse (fun (name, location) => s.requiredScheme location name)
    (firstMentions [] (requiredNames location requirements))

/-- The operation with everything resolved. -/
def normalize (s : Site) (id : String) : Report NormalizeError Model.Operation := do
  let merged ← s.mergedParameters
  let parameters ← s.parameters merged
  let body ← s.body merged
  let responses ← s.responses
  let security ← s.security
  let responseMap ← Model.responseMap s.config (locate s.location ["responses"]) responses
  return {
    id
    method := s.method
    path := s.path
    pathParams := s.pathParams
    summary := s.operation.summary <|> s.item.summary
    description := s.operation.description <|> s.item.description
    deprecated := s.operation.deprecated
    tags := s.operation.tags
    parameters, body, responses, security, responseMap }

end Site

end Document

end ApiShape
