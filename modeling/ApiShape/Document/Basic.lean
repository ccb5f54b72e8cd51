import ApiShape.Document.Schema
import ApiShape.Model.Basic

/-!
# Documents

A document that describes an interface, of version 2 or 3 of the format. Both versions read into the
same fields: version 3 puts named parts under its components, version 2 at the top.
-/

namespace ApiShape

namespace Document

/-- Where a parameter goes. Body and form parameters belong to version 2. -/
inductive ParameterLocation where
  | path
  | query
  | header
  | cookie
  | body
  | formData
  deriving DecidableEq, Repr

/-- The name of a location. -/
def ParameterLocation.name : ParameterLocation → String
  | .path => "path"
  | .query => "query"
  | .header => "header"
  | .cookie => "cookie"
  | .body => "body"
  | .formData => "formData"

/-- The locations. -/
def ParameterLocation.all : List ParameterLocation :=
  [.path, .query, .header, .cookie, .body, .formData]

/-- A parameter. In version 2 its type stands in the parameter itself. -/
structure Parameter where
  name : String
  location : ParameterLocation
  required : Bool := false
  deprecated : Option Bool := none
  description : Option String := none
  style : Option ParameterStyle := none
  explode : Option Bool := none
  allowReserved : Option Bool := none
  schema : Option (RefOr Schema) := none
  types : List SchemaType := []
  format : Option String := none
  items : Option (RefOr Schema) := none
  enum : Option (List Json) := none
  default : Option Json := none
  deriving Repr

/-- The schema of a parameter, made from its own fields if it has none. -/
def Parameter.schema? (p : Parameter) : Option (RefOr Schema) :=
  match p.schema with
  | some s => some s
  | none =>
    if p.types.isEmpty && p.enum.isNone then none
    else some <| .inline {
      types := p.types
      format := p.format
      items := p.items
      enum := p.enum
      default := p.default }

/-- What is sent under a media type. -/
structure MediaType where
  schema : Option (RefOr Schema) := none
  deriving Repr

/-- The body of a request. -/
structure RequestBody where
  description : Option String := none
  required : Bool := false
  content : List (String × MediaType) := []
  deriving Repr

/-- A response. In version 2 its schema stands in the response itself. -/
structure Response where
  description : Option String := none
  content : Option (List (String × MediaType)) := none
  schema : Option (RefOr Schema) := none
  deriving Repr

/-- A way to secure operations. -/
structure SecurityScheme where
  type : String := ""
  description : Option String := none
  name : Option String := none
  location : Option String := none
  scheme : Option String := none
  bearerFormat : Option String := none
  flows : List (String × Json) := []
  flow : Option String := none
  openIdConnectUrl : Option String := none
  deriving Repr

/-- The names of security schemes, with the scopes that each must grant. -/
abbrev SecurityRequirement := List (String × List String)

/-- What a method does to a path. -/
structure Operation where
  operationId : Option String := none
  summary : Option String := none
  description : Option String := none
  deprecated : Option Bool := none
  tags : List String := []
  parameters : List (RefOr Parameter) := []
  requestBody : Option (RefOr RequestBody) := none
  responses : List (String × RefOr Response) := []
  security : Option (List SecurityRequirement) := none
  consumes : Option (List String) := none
  produces : Option (List String) := none
  extensions : List (String × Json) := []
  deriving Repr

/-- The operations of a path. -/
structure PathItem where
  summary : Option String := none
  description : Option String := none
  get : Option Operation := none
  put : Option Operation := none
  post : Option Operation := none
  delete : Option Operation := none
  options : Option Operation := none
  head : Option Operation := none
  patch : Option Operation := none
  trace : Option Operation := none
  parameters : List (RefOr Parameter) := []
  deriving Repr

/-- The operation of a method. -/
def PathItem.operation? (item : PathItem) : Method → Option Operation
  | .get => item.get
  | .put => item.put
  | .post => item.post
  | .delete => item.delete
  | .options => item.options
  | .head => item.head
  | .patch => item.patch
  | .trace => item.trace

/-- The operations of a path, in the order of the methods. -/
def PathItem.operations (item : PathItem) : List (Method × Operation) :=
  Method.all.filterMap fun m => (item.operation? m).map (m, ·)

/-- The named parts of a document of version 3. -/
structure Components where
  schemas : List (String × RefOr Schema) := []
  responses : List (String × Response) := []
  parameters : List (String × Parameter) := []
  requestBodies : List (String × RequestBody) := []
  securitySchemes : List (String × SecurityScheme) := []
  deriving Repr

end Document

/-- A document. -/
structure Document where
  openapi : Option String := none
  swagger : Option String := none
  info : Info := {}
  paths : List (String × Document.PathItem) := []
  components : Option Document.Components := none
  definitions : List (String × RefOr Schema) := []
  parameters : List (String × Document.Parameter) := []
  responses : List (String × Document.Response) := []
  securityDefinitions : List (String × Document.SecurityScheme) := []
  security : Option (List Document.SecurityRequirement) := none
  consumes : List String := []
  produces : List String := []
  deriving Repr

namespace Document

/-- A named schema, and where it lies. -/
structure NamedSchema where
  name : String
  schema : RefOr Schema
  location : String
  deriving Repr

/-- The named schemas of a document: those of the components, then the definitions. -/
def schemas (d : Document) : List NamedSchema :=
  let named (root : String) : String × RefOr Schema → NamedSchema
    | (name, schema) => ⟨name, schema, root ++ "/" ++ Pointer.escape name⟩
  ((d.components.map (·.schemas)).getD []).map (named "#/components/schemas") ++
    d.definitions.map (named "#/definitions")

/-- The security scheme of a name: that of the components, or else the definition. -/
def securityScheme? (d : Document) (name : String) : Option SecurityScheme :=
  (d.components.bind fun c => Dict.get? c.securitySchemes name) <|>
    Dict.get? d.securityDefinitions name

end Document

end ApiShape
