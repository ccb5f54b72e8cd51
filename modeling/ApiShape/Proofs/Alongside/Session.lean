import ApiShape.Normalize.Document
import ApiShape.Proofs.Alongside.Schema

/-!
# Sessions side by side

The named schemas of documents that correspond are normalized alongside, up to the first that fails:
what is kept of them corresponds, under the same names and in the same order.
-/

namespace ApiShape

/-- The named schemas have the same name, lie at locations that correspond, and correspond. -/
structure Document.NamedSchema.Alongside (p : Pairing) (d d' : Document) (x x' : NamedSchema) :
    Prop where
  name : x.name = x'.name
  location : p.location x.location x'.location
  schema : p.place x.schema x'.schema
  steps : d.stepsFor x.schema = d'.stepsFor x'.schema

namespace Session

/-- The sessions have recorded the same about locations that correspond, and differ in nodes that
correspond at most. -/
structure Alongside (p : Pairing) (s s' : Session) : Prop where
  diagnostics : List.Forall₂ (Diagnostic.Alongside p.location) s.diagnostics s'.diagnostics
  info : s.model.info = s'.model.info
  schemas : List.Forall₂ (Named p.node) s.model.schemas s'.model.schemas
  paths : s.model.paths = s'.model.paths

variable {p : Pairing} {d d' : Document} {s s' : Session}

theorem component_alongside (h : p.Holds d d') (hd : s.document = d) (hd' : s'.document = d')
    (hs : s.Alongside p s') {x x' : Document.NamedSchema} (hx : x.Alongside p d d' x') :
    (s.component x.name x.schema x.location).1.Alongside p
        (s'.component x'.name x'.schema x'.location).1 ∧
      Both p.error p.node (s.component x.name x.schema x.location).2
        (s'.component x'.name x'.schema x'.location).2 := by
  subst hd hd'
  obtain ⟨hdiagnostics, hresult⟩ := h.normalizeComponent x.name hx.schema hx.steps hx.location
  unfold component
  rw [← hx.name]
  dsimp only
  have hnoted := List.rel_append hs.diagnostics hdiagnostics
  generalize (s.document.normalizeComponent x.name x.schema x.location).result = result at hresult
  generalize (s'.document.normalizeComponent x.name x'.schema x'.location).result = result' at hresult
  cases hresult with
  | ok hnode =>
    exact ⟨⟨hnoted, hs.info, named_insert hs.schemas x.name hnode, hs.paths⟩, .ok hnode⟩
  | error he => exact ⟨⟨hnoted, hs.info, hs.schemas, hs.paths⟩, .error he⟩

theorem document_component (s : Session) (name : String) (place : RefOr Schema)
    (location : String) : (s.component name place location).1.document = s.document := by
  unfold component
  dsimp only
  split <;> rfl

theorem config_component (s : Session) (name : String) (place : RefOr Schema)
    (location : String) : (s.component name place location).1.config = s.config := by
  unfold component
  dsimp only
  split <;> rfl

/-- Named schemas that correspond are normalized alongside, up to the first that fails. -/
theorem components_alongside (h : p.Holds d d') {named named' : List Document.NamedSchema}
    (hnamed : List.Forall₂ (Document.NamedSchema.Alongside p d d') named named')
    (hd : s.document = d) (hd' : s'.document = d') (hs : s.Alongside p s') :
    (s.components named).1.Alongside p (s'.components named').1 ∧
      Both p.error Eq (s.components named).2 (s'.components named').2 := by
  induction hnamed generalizing s s' with
  | nil => exact ⟨hs, .ok rfl⟩
  | @cons x x' rest rest' hx _ ih =>
    obtain ⟨hfirst, hresult⟩ := component_alongside h hd hd' hs hx
    have hdocument := (s.document_component x.name x.schema x.location).trans hd
    have hdocument' := (s'.document_component x'.name x'.schema x'.location).trans hd'
    unfold components
    generalize s.component x.name x.schema x.location = first at *
    generalize s'.component x'.name x'.schema x'.location = first' at *
    obtain ⟨t, result⟩ := first
    obtain ⟨t', result'⟩ := first'
    cases hresult with
    | ok _ => exact ih hdocument hdocument' hfirst
    | error he => exact ⟨hfirst, .error he⟩

/-- The document and the configuration stay the same. -/
theorem document_components (s : Session) (named : List Document.NamedSchema) :
    (s.components named).1.document = s.document ∧ (s.components named).1.config = s.config := by
  induction named generalizing s with
  | nil => exact ⟨rfl, rfl⟩
  | cons x rest ih =>
    have hdocument := s.document_component x.name x.schema x.location
    have hconfig := s.config_component x.name x.schema x.location
    unfold components
    generalize s.component x.name x.schema x.location = first at *
    obtain ⟨t, _ | _⟩ := first
    · exact ⟨hdocument, hconfig⟩
    · exact ⟨(ih t).1.trans hdocument, (ih t).2.trans hconfig⟩

end Session

end ApiShape
