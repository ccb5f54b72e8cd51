import ApiShape.Document.Basic
import ApiShape.Document.SchemaReader
import ApiShape.Source.JsonText
import ApiShape.Source.YamlText

/-!
# Reading documents

How documents and their parts are read from sources. What a document does not know is ignored,
except in operations and schemas, which keep it.
-/

namespace ApiShape

open Reader (record openRecord text flag list dict)

/-- Reads what a document says about itself. -/
def Info.read : Reader Info :=
  record ["title", "description", "version"] fun r =>
    Info.mk <$> r.field "title" text "" <*> r.optional "description" text
      <*> r.field "version" text ""

namespace Document

/-- Reads a parameter. -/
def Parameter.read : Reader Parameter :=
  record ["name", "in", "required", "deprecated", "description", "style", "explode",
      "allowReserved", "schema", "type", "format", "items", "enum", "default"] fun r =>
    Parameter.mk <$> r.required "name" text
      <*> r.required "in" (Reader.choice ParameterLocation.name ParameterLocation.all)
      <*> r.field "required" flag false
      <*> r.optional "deprecated" flag
      <*> r.optional "description" text
      <*> r.optional "style" (Reader.choice ParameterStyle.name ParameterStyle.all)
      <*> r.optional "explode" flag
      <*> r.optional "allowReserved" flag
      <*> r.optional "schema" Schema.read
      <*> r.field "type" SchemaType.read []
      <*> r.optional "format" text
      <*> r.optional "items" Schema.read
      <*> r.optional "enum" (list Reader.json)
      <*> r.field "default" (fun s => s.json.map some) none

/-- Reads what is sent under a media type. -/
def MediaType.read : Reader MediaType :=
  record ["schema"] fun r => MediaType.mk <$> r.optional "schema" Schema.read

/-- Reads the body of a request. -/
def RequestBody.read : Reader RequestBody :=
  record ["description", "required", "content"] fun r =>
    RequestBody.mk <$> r.optional "description" text
      <*> r.field "required" flag false
      <*> r.field "content" (dict MediaType.read) []

/-- Reads a response. -/
def Response.read : Reader Response :=
  record ["description", "content", "schema"] fun r =>
    Response.mk <$> r.optional "description" text
      <*> r.optional "content" (dict MediaType.read)
      <*> r.optional "schema" Schema.read

/-- Reads a way to secure operations. -/
def SecurityScheme.read : Reader SecurityScheme :=
  record ["type", "description", "name", "in", "scheme", "bearerFormat", "flows", "flow",
      "openIdConnectUrl"] fun r =>
    SecurityScheme.mk <$> r.field "type" text ""
      <*> r.optional "description" text
      <*> r.optional "name" text
      <*> r.optional "in" text
      <*> r.optional "scheme" text
      <*> r.optional "bearerFormat" text
      <*> r.field "flows" (dict Reader.json) []
      <*> r.optional "flow" text
      <*> r.optional "openIdConnectUrl" text

/-- Reads the security requirements of an operation or a document. -/
def SecurityRequirement.readAll : Reader (List SecurityRequirement) :=
  list (dict (list text))

/-- Reads an operation. -/
def Operation.read : Reader Operation :=
  openRecord ["operationId", "summary", "description", "deprecated", "tags", "parameters",
      "requestBody", "responses", "security", "consumes", "produces"] fun r =>
    Operation.mk <$> r.optional "operationId" text
      <*> r.optional "summary" text
      <*> r.optional "description" text
      <*> r.optional "deprecated" flag
      <*> r.field "tags" (list text) []
      <*> r.field "parameters" (list (RefOr.read Parameter.read)) []
      <*> r.optional "requestBody" (RefOr.read RequestBody.read)
      <*> r.field "responses" (dict (RefOr.read Response.read)) []
      <*> r.optional "security" SecurityRequirement.readAll
      <*> r.optional "consumes" (list text)
      <*> r.optional "produces" (list text)
      <*> r.extensions

/-- Reads the operations of a path. -/
def PathItem.read : Reader PathItem :=
  record ["summary", "description", "get", "put", "post", "delete", "options", "head", "patch",
      "trace", "parameters"] fun r =>
    PathItem.mk <$> r.optional "summary" text
      <*> r.optional "description" text
      <*> r.optional "get" Operation.read
      <*> r.optional "put" Operation.read
      <*> r.optional "post" Operation.read
      <*> r.optional "delete" Operation.read
      <*> r.optional "options" Operation.read
      <*> r.optional "head" Operation.read
      <*> r.optional "patch" Operation.read
      <*> r.optional "trace" Operation.read
      <*> r.field "parameters" (list (RefOr.read Parameter.read)) []

/-- Reads the named parts of a document. -/
def Components.read : Reader Components :=
  record ["schemas", "responses", "parameters", "requestBodies", "securitySchemes"] fun r =>
    Components.mk <$> r.field "schemas" (dict Schema.read) []
      <*> r.field "responses" (dict Response.read) []
      <*> r.field "parameters" (dict Parameter.read) []
      <*> r.field "requestBodies" (dict RequestBody.read) []
      <*> r.field "securitySchemes" (dict SecurityScheme.read) []

/-- Reads a document. -/
def read : Reader Document :=
  record ["openapi", "swagger", "info", "paths", "components", "definitions", "parameters",
      "responses", "securityDefinitions", "security", "consumes", "produces"] fun r =>
    Document.mk <$> r.optional "openapi" text
      <*> r.optional "swagger" text
      <*> r.field "info" Info.read {}
      <*> r.field "paths" (dict PathItem.read) []
      <*> r.optional "components" Components.read
      <*> r.field "definitions" (dict Schema.read) []
      <*> r.field "parameters" (dict Parameter.read) []
      <*> r.field "responses" (dict Response.read) []
      <*> r.field "securityDefinitions" (dict SecurityScheme.read) []
      <*> r.optional "security" SecurityRequirement.readAll
      <*> r.field "consumes" (list text) []
      <*> r.field "produces" (list text) []

/-- The document that a JSON text starts with; what follows it does not matter. -/
def ofJsonText (text : String) : Except Fault Document :=
  read (Source.ofJsonStart text)

/-- The document that a YAML text is. -/
def ofYamlText? (text : String) : Option Document := do
  (read (← Source.ofYaml? text)).toOption

end Document

/-- The schema or reference that a JSON text is, with nothing after it. -/
def Schema.ofJsonText (text : String) : Except Fault (RefOr Schema) := do
  let schema ← Schema.read (Source.ofJsonStart text)
  if Source.endsCleanly text then return schema else throw .malformed

end ApiShape
