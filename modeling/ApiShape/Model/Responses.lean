import ApiShape.Config.Basic
import ApiShape.Diagnostic
import ApiShape.Model.Basic
import ApiShape.Node.Dedupe
import ApiShape.StatusGroup

/-!
# Response maps

The responses of an operation fall into successes and errors by their status codes. A default
response is assigned last: it is a success if there is no other or if it mentions a keyword of
success, and an error if it mentions a keyword of errors or is no success.
-/

namespace ApiShape

namespace Text

/-- The text holds the word. -/
def holds (word : List Char) : List Char → Bool
  | [] => word.isEmpty
  | c :: rest => word.isPrefixOf (c :: rest) || holds word rest

end Text

namespace Model

/-- The schemas of responses sorted by what their codes mean. -/
structure Sorted where
  successes : Dict Node := []
  errors : Dict Node := []
  default : Option Node := none

/-- Files a response under its code. -/
def Sorted.file (location : String) (s : Sorted) (code : String) (schema : Node) :
    Report ε Sorted :=
  match StatusGroup.ofCode? code with
  | some .success => pure { s with successes := s.successes.insert code schema }
  | some .clientError => pure { s with errors := s.errors.insert code schema }
  | some .serverError => pure { s with errors := s.errors.insert code schema }
  | some .default => pure { s with default := some schema }
  | some .informational => pure s
  | some .redirection => pure s
  | none => do
    Report.record .unrecognizedStatusCode (location ++ "/" ++ Pointer.escape code)
      ("`" ++ code ++ "` isn't a status code, range, or `default`")
    pure s

/-- Files all the responses, in order. -/
def Sorted.fileAll (location : String) : Sorted → List (String × Response) → Report ε Sorted
  | s, [] => pure s
  | s, (code, r) :: rest => do Sorted.fileAll location (← s.file location code r.schema) rest

/-- The description or the reference of a schema mentions one of the words, in any case. -/
def mentions (words : List String) (schema : Node) : Bool :=
  let description := Text.lower (schema.docs.description.getD "").toList
  let reference := Text.lower (schema.reference.getD "").toList
  words.any fun word =>
    let word := Text.lower word.toList
    Text.holds word description || Text.holds word reference

/-- The sorted schemas with the default response assigned. -/
def Sorted.assignDefault (config : Config) (s : Sorted) : Sorted :=
  match s.default with
  | none => s
  | some schema =>
    let isSuccess := s.successes.isEmpty || mentions config.successKeywords schema
    let isError := mentions config.errorKeywords schema || !isSuccess
    { s with
      successes := if isSuccess then s.successes.insert "default" schema else s.successes
      errors := if isError then s.errors.insert "default" schema else s.errors }

/-- The object of some schemas, which requires all of them, if there are any. -/
def groupObject (schemas : Dict Node) : Option Node :=
  if schemas.isEmpty then none
  else some { type := some .object, properties := schemas, required := schemas.keys }

/-- The union of some schemas, if it says anything. -/
def groupUnion (schemas : Dict Node) : Option Node :=
  if schemas.isEmpty then none
  else
    let union := Node.dedupe (Node.composition .or schemas.values)
    if union.isEmpty || union.type == some .unknown then none else some union

/-- The response map of some responses, which lie at a location. -/
def responseMap (config : Config) (location : String) (responses : List (String × Response)) :
    Report ε ResponseMap := do
  let sorted ← Sorted.fileAll location {} responses
  let s := sorted.assignDefault config
  return {
    responses := groupObject s.successes
    response := groupUnion s.successes
    errors := groupObject s.errors
    error := groupUnion s.errors }

end Model

end ApiShape
