import ApiShape.Normalize.Operation

/-!
# Normalization of documents

A normalization goes through a document's named schemas and then through its operations, in order.
It can also be taken step by step: a session holds what has come of a document so far.
-/

namespace ApiShape

namespace Document

/-- The IDs that are taken, each with the operation that took it first. -/
abbrev TakenIds := List (String × String)

/-- The first of an ID's successors `id2`, `id3`, and so on that is free. Among more successors than
there are taken IDs there is a free one. -/
def freshId (taken : TakenIds) (id : String) : String :=
  let successors := (List.range (taken.length + 1)).map fun i => id ++ toString (i + 2)
  (successors.find? fun candidate => (taken.lookup candidate).isNone).getD ""

/-- The ID of an operation, which is its raw ID unless that is taken. -/
def Site.chooseId (s : Site) (taken : TakenIds) : Report NormalizeError String :=
  let id := s.rawId
  match taken.lookup id with
  | none => pure id
  | some first =>
    if s.config.strictOperationIds then .fail (.duplicateOperationId id first s.label)
    else do
      let renamed := freshId taken id
      Report.record .duplicateOperationId (locate s.location ["operationId"])
        ("operation ID `" ++ id ++ "` is already used by `" ++ first ++ "`; renaming to `" ++
          renamed ++ "`")
      return renamed

/-- What comes of some operations: those before the first that fails, and the report of all that
was tried. -/
structure Progress where
  operations : List Model.Operation
  report : Report NormalizeError Unit

/-- The operations of a path, as far as none fails, and the IDs that are taken after them. -/
def normalizeSites : TakenIds → List Site → Progress × TakenIds
  | taken, [] => (⟨[], pure ()⟩, taken)
  | taken, s :: rest =>
    let attempt : Report NormalizeError Model.Operation := do s.normalize (← s.chooseId taken)
    match attempt.result with
    | .error e => (⟨[], ⟨attempt.diagnostics, .error e⟩⟩, taken)
    | .ok o =>
      let (progress, taken) := normalizeSites ((o.id, s.label) :: taken) rest
      (⟨o :: progress.operations,
        ⟨attempt.diagnostics ++ progress.report.diagnostics, progress.report.result⟩⟩, taken)

/-- The parameters of a path, or a diagnostic if it is no template. -/
def pathParams (path : String) : Report NormalizeError (List String) :=
  match PathTemplate.parse path with
  | .ok t => pure t.params
  | .error e => do
    Report.record .badPathTemplate (locate "#" ["paths", path])
      (PathTemplateError.message ++ " at offset " ++ toString e.offset)
    return []

/-- The operations of a path in their place. -/
def sites (d : Document) (config : Config) (path : String) (item : PathItem)
    (pathParams : List String) : List Site :=
  item.operations.map fun (method, operation) =>
    ⟨d, config, path, pathParams, item, method, operation⟩

/-- The operations of some paths, as far as none fails. -/
def normalizePathsFrom (d : Document) (config : Config) :
    TakenIds → List (String × PathItem) → Progress
  | _, [] => ⟨[], pure ()⟩
  | taken, (path, item) :: rest =>
    let template := pathParams path
    let params :=
      match template.result with
      | .ok params => params
      | .error _ => []
    let (here, taken) := normalizeSites taken (d.sites config path item params)
    let before := template.diagnostics ++ here.report.diagnostics
    match here.report.result with
    | .error e => ⟨here.operations, ⟨before, .error e⟩⟩
    | .ok () =>
      let after := d.normalizePathsFrom config taken rest
      ⟨here.operations ++ after.operations,
        ⟨before ++ after.report.diagnostics, after.report.result⟩⟩

/-- The operations of a document, as far as none fails. -/
def normalizePaths (d : Document) (config : Config) : Progress :=
  d.normalizePathsFrom config [] d.paths

end Document

/-- A normalization under way. -/
structure Session where
  document : Document
  config : Config
  model : Model
  diagnostics : List Diagnostic

namespace Session

/-- The start of a normalization. -/
def start (document : Document) (config : Config) : Session :=
  ⟨document, config, { info := document.info }, []⟩

/-- The session with more diagnostics. -/
def note (s : Session) (diagnostics : List Diagnostic) : Session :=
  { s with diagnostics := s.diagnostics ++ diagnostics }

/-- Normalizes a schema, which is not kept. -/
def schema (s : Session) (place : RefOr Schema) (location : String) :
    Session × Except NormalizeError Node :=
  let r := s.document.normalizeSchema place location
  (s.note r.diagnostics, r.result)

/-- Normalizes a named schema, and keeps it under its name. -/
def component (s : Session) (name : String) (place : RefOr Schema) (location : String) :
    Session × Except NormalizeError Node :=
  let r := s.document.normalizeComponent name place location
  let s := s.note r.diagnostics
  match r.result with
  | .ok n => ({ s with model := s.model.insertSchema name n }, .ok n)
  | .error e => (s, .error e)

/-- Normalizes the named schemas. -/
def components : Session → List Document.NamedSchema → Session × Except NormalizeError Unit
  | s, [] => (s, .ok ())
  | s, named :: rest =>
    match s.component named.name named.schema named.location with
    | (s, .ok _) => s.components rest
    | (s, .error e) => (s, .error e)

/-- Normalizes the operations, and keeps them. Those before one that fails are kept too. -/
def paths (s : Session) : Session × Except NormalizeError Unit :=
  let progress := s.document.normalizePaths s.config
  let s := s.note progress.report.diagnostics
  ({ s with model := progress.operations.foldl Model.insertOperation s.model },
    progress.report.result)

end Session

/-- A normalized document, and what was odd about the document. -/
structure Normalized where
  model : Model
  diagnostics : List Diagnostic

/-- Normalizes a document. -/
def Document.normalize (d : Document) (config : Config) : Except NormalizeError Normalized :=
  match (Session.start d config).components d.schemas with
  | (_, .error e) => .error e
  | (s, .ok ()) =>
    match s.paths with
    | (_, .error e) => .error e
    | (s, .ok ()) => .ok ⟨s.model, s.diagnostics⟩

end ApiShape
