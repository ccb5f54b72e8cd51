/-!
# Diagnostics

Anomalies of a document that do not keep it from being normalized, and computations that record
them in order.
-/

namespace ApiShape

/-- What is odd about a document. -/
inductive DiagnosticKind where
  /-- An operation ID that is taken already; the repetition is renamed. -/
  | duplicateOperationId
  /-- An enum value that is a list or an object; it is skipped. -/
  | unsupportedEnumValueType
  /-- A response under a key that is no status code, range or `default`; it is in no union. -/
  | unrecognizedStatusCode
  /-- A path that is no valid template. -/
  | badPathTemplate
  /-- A security requirement for a scheme that is not defined or not supported. -/
  | unknownSecurityScheme
  deriving DecidableEq, Repr

/-- The name of a kind of diagnostic. -/
def DiagnosticKind.name : DiagnosticKind → String
  | .duplicateOperationId => "DuplicateOperationId"
  | .unsupportedEnumValueType => "UnsupportedEnumValueType"
  | .unrecognizedStatusCode => "UnrecognizedStatusCode"
  | .badPathTemplate => "BadPathTemplate"
  | .unknownSecurityScheme => "UnknownSecurityScheme"

/-- The kind of a name. -/
def DiagnosticKind.ofName? (name : String) : Option DiagnosticKind :=
  [.duplicateOperationId, .unsupportedEnumValueType, .unrecognizedStatusCode, .badPathTemplate,
    .unknownSecurityScheme].find? (DiagnosticKind.name · = name)

/-- An anomaly and the place where it lies, as a fragment such as `#/paths/~1pets`. -/
structure Diagnostic where
  kind : DiagnosticKind
  message : String
  location : String
  deriving DecidableEq, Repr

/-- The outcome of a computation that records diagnostics and may fail. What was recorded before a
failure stays recorded. -/
structure Report (ε : Type) (α : Type) where
  diagnostics : List Diagnostic
  result : Except ε α

namespace Report

/-- A result without diagnostics. -/
protected def pure (a : α) : Report ε α :=
  ⟨[], .ok a⟩

/-- Goes on with the result, after the diagnostics recorded so far. -/
protected def bind (r : Report ε α) (f : α → Report ε β) : Report ε β :=
  match r.result with
  | .ok a =>
    let next := f a
    ⟨r.diagnostics ++ next.diagnostics, next.result⟩
  | .error e => ⟨r.diagnostics, .error e⟩

instance : Monad (Report ε) where
  pure := Report.pure
  bind := Report.bind

/-- A failure. -/
def fail (e : ε) : Report ε α :=
  ⟨[], .error e⟩

/-- A result that may be an error. -/
def ofExcept (r : Except ε α) : Report ε α :=
  ⟨[], r⟩

/-- Records a diagnostic. -/
def record (kind : DiagnosticKind) (location message : String) : Report ε Unit :=
  ⟨[⟨kind, message, location⟩], .ok ()⟩

/-- Goes through a list in order, as far as nothing fails. -/
def traverse (f : α → Report ε β) : List α → Report ε (List β)
  | [] => pure []
  | a :: rest => do
    let b ← f a
    let bs ← traverse f rest
    return b :: bs

end Report

end ApiShape
