import ApiShape.MediaType
import ApiShape.Node.Basic

/-!
# Normalized documents

What a document comes to when it is normalized: named nodes, and operations with everything that
they need resolved.
-/

namespace ApiShape

/-- What a document says about itself. -/
structure Info where
  title : String := ""
  description : Option String := none
  version : String := ""
  deriving DecidableEq, Repr

/-- The methods of operations. -/
inductive Method where
  | get
  | put
  | post
  | delete
  | options
  | head
  | patch
  | trace
  deriving DecidableEq, Repr

/-- The methods in the order in which the operations of a path are listed. -/
def Method.all : List Method :=
  [.get, .put, .post, .delete, .options, .head, .patch, .trace]

/-- The name of a method in lower case. -/
def Method.name : Method → String
  | .get => "get"
  | .put => "put"
  | .post => "post"
  | .delete => "delete"
  | .options => "options"
  | .head => "head"
  | .patch => "patch"
  | .trace => "trace"

/-- How a parameter with several values is written. -/
inductive ParameterStyle where
  | matrix
  | label
  | form
  | simple
  | spaceDelimited
  | pipeDelimited
  | deepObject
  deriving DecidableEq, Repr

/-- The name of a style. -/
def ParameterStyle.name : ParameterStyle → String
  | .matrix => "matrix"
  | .label => "label"
  | .form => "form"
  | .simple => "simple"
  | .spaceDelimited => "spaceDelimited"
  | .pipeDelimited => "pipeDelimited"
  | .deepObject => "deepObject"

/-- The styles. -/
def ParameterStyle.all : List ParameterStyle :=
  [.matrix, .label, .form, .simple, .spaceDelimited, .pipeDelimited, .deepObject]

namespace Model

/-- Where a parameter goes. -/
inductive Location where
  | path
  | query
  | header
  | cookie
  deriving DecidableEq, Repr

/-- The name of a location. -/
def Location.name : Location → String
  | .path => "path"
  | .query => "query"
  | .header => "header"
  | .cookie => "cookie"

/-- A parameter of an operation. -/
structure Parameter where
  name : String
  location : Location
  required : Bool
  deprecated : Option Bool
  description : Option String
  style : Option ParameterStyle
  explode : Option Bool
  allowReserved : Option Bool
  schema : Node
  deriving Repr

/-- The body of a request. -/
structure Body where
  mediaType : String
  kind : Option MediaKind
  schema : Node
  required : Bool
  deriving Repr

/-- A response. -/
structure Response where
  mediaType : Option String
  schema : Node
  deriving Repr

/-- How an operation is secured. -/
inductive SecurityScheme where
  | apiKey (name location : String) (description : Option String)
  | http (scheme : String) (bearerFormat description : Option String)
  | oauth2 (flows : List String) (description : Option String)
  | openIdConnect (url : String) (description : Option String)
  deriving DecidableEq, Repr

/-- The successes and the errors of an operation: for each an object of the schemas by status code,
and the union of the schemas. -/
structure ResponseMap where
  responses : Option Node := none
  response : Option Node := none
  errors : Option Node := none
  error : Option Node := none
  deriving Repr

/-- An operation. -/
structure Operation where
  id : String
  method : Method
  path : String
  pathParams : List String
  summary : Option String
  description : Option String
  deprecated : Option Bool
  tags : List String
  parameters : List Parameter
  body : Option Body
  responses : List (String × Response)
  security : List SecurityScheme
  responseMap : ResponseMap
  deriving Repr

/-- The operation cannot be called without data. -/
def Operation.hasRequiredData (o : Operation) : Bool :=
  o.parameters.any (·.required) || o.body.any (·.required)

end Model

/-- A normalized document. -/
structure Model where
  info : Info := {}
  schemas : List (String × Node) := []
  paths : List (String × List Model.Operation) := []
  deriving Repr

namespace Model

/-- The operations in the order of their paths. -/
def operations (m : Model) : List Operation :=
  m.paths.flatMap (·.2)

/-- Sets a named schema. -/
def insertSchema (m : Model) (name : String) (n : Node) : Model :=
  { m with schemas := Dict.insert m.schemas name n }

/-- Sets the operation of a method, in the place of one of the same method. -/
def setOperation (o : Operation) : List Operation → List Operation
  | [] => [o]
  | p :: rest => if p.method = o.method then o :: rest else p :: setOperation o rest

/-- Sets an operation of a path. -/
def insertOperation (m : Model) (o : Operation) : Model :=
  { m with
    paths := Dict.insert m.paths o.path (setOperation o ((Dict.get? m.paths o.path).getD [])) }

end Model

end ApiShape
