import ApiShape.Proofs.Alongside.Paths
import ApiShape.Proofs.Document.Relabelled
import ApiShape.Proofs.Normalize.OperationIds

/-!
# Normalization under other media types

Documents that differ in the case and in the parameters of media types normalize alike: the same entries
are chosen of what may be sent, and what comes of them differs in the media types at most. Only forms in
parts are told from others by the plain spelling of their media type.
-/

namespace ApiShape

/-! ## Models -/

namespace Model

variable {M : String → String → Prop} {P Q : Prop}

theorem Operation.Alongside.imp_forms {o o' : Operation} (h : o.Alongside M P o') (hPQ : P → Q) :
    o.Alongside M Q o' where
  rest := h.rest
  body := rel_imp (fun _ _ hb => ⟨hb.schema, hb.required, hb.encoding.imp_left hPQ⟩) h.body
  responses := h.responses

end Model

/-! ## Schemas -/

/-- What stands at places of a document corresponds to itself, wherever it lies. -/
def Pairing.within (d : Document) : Pairing where
  ref r r' := r = r' ∧ d.HasPlace (.ref r)
  schema s s' := s = s' ∧ ∀ place ∈ s.parts, d.HasPlace place
  docs := Eq
  node := Eq
  location _ _ := True
  reason _ _ := True
  error e e' := e.message = e'.message

/-- Operations and what becomes of them differ in media types at most, which are alike. -/
def SitePairing.relabelled (openForms : Prop) : SitePairing where
  location _ _ := True
  error e e' := e.message = e'.message
  mediaType := MediaType.Alike
  openForms := openForms

theorem SitePairing.lawful_relabelled (openForms : Prop) : (relabelled openForms).Lawful where
  same := MediaType.Alike.refl
  rank config _ _ h := h.rank config
  kind _ _ h := h.kind?
  append _ _ _ _ := trivial
  content _ _ _ _ _ _ _ _ := trivial
  duplicate _ _ _ := rfl

namespace Document

variable {d d' : Document} {place : RefOr Schema}

theorem place_within (h : d.HasPlace place) : (Pairing.within d).place place place := by
  cases place with
  | ref r => exact .ref ⟨rfl, h⟩
  | inline s => exact .inline ⟨rfl, fun _ hpart => h.parts hpart⟩

/-- The schema that a parameter makes of its own fields has places at its items only. -/
theorem place_within_of_schema? {p : Parameter} (h : ∀ place ∈ p.places, d.HasPlace place)
    (hplace : p.schema? = some place) : (Pairing.within d).place place place := by
  unfold Parameter.schema? at hplace
  cases hschema : p.schema with
  | some own =>
    rw [hschema] at hplace
    cases hplace
    refine place_within (h _ (List.mem_append_left _ ?_))
    rw [hschema]
    exact List.mem_singleton_self _
  | none =>
    rw [hschema] at hplace
    dsimp only at hplace
    split at hplace
    · cases hplace
    · -- What is made has no other part than the items.
      cases hplace
      refine .inline ⟨rfl, fun part hpart => h part (List.mem_append_right _ ?_)⟩
      simpa [Schema.parts] using hpart

namespace Relabels

/-- The schemas of the documents are the same, and lead to the same schemas. -/
theorem holds_within (h : d.Relabels d') : (Pairing.within d).Holds d d' where
  nodes := Node.congruence_eq
  schema := by
    rintro s _ ⟨rfl, hparts⟩
    exact Schema.alongside_refl (fun place hpart => place_within (hparts place hpart)) (fun _ => rfl)
      fun _ _ hr => hr.1
  text := by
    rintro r _ q _ ⟨rfl, -⟩ ⟨rfl, -⟩
    exact Iff.rfl
  normalized r r' hr := congrArg Ref.normalized hr.1
  locationOf _ _ _ _ _ _ := trivial
  append _ _ _ _ := trivial
  step := by
    rintro r _ ⟨rfl, hr⟩
    have hstep : Both (fun _ _ => True) (RefOr.Alongside Eq Eq) (Document.stepFrom Schema d r)
        (Document.stepFrom Schema d' r) := h.stepFrom hr.mem_references .schema
    -- Wherever a reference leads there is a place of the document again.
    have hplace : ∀ place, Document.stepFrom Schema d r = .ok place → d.HasPlace place :=
      fun _ => hasPlace_of_stepFrom
    generalize Document.stepFrom Schema d r = first at hstep hplace ⊢
    generalize Document.stepFrom Schema d' r = first' at hstep ⊢
    cases hstep with
    | error _ => exact .error trivial
    | ok hsame =>
      cases hsame with
      | ref hq => exact .ok (hq ▸ place_within (hplace _ rfl))
      | inline hs => exact .ok (hs ▸ place_within (hplace _ rfl))
  cycle _ _ _ := trivial
  unresolved := by
    rintro r _ _ _ ⟨rfl, -⟩ -
    rfl
  endless := rfl

theorem stepsFor (h : d.Relabels d') (place : RefOr Schema) : d.stepsFor place = d'.stepsFor place := by
  unfold Document.stepsFor
  rw [h.nestedSchemas]

/-- The named schemas are the same. -/
theorem schemas (h : d.Relabels d') :
    List.Forall₂ (NamedSchema.Alongside (.within d) d d') d.schemas d'.schemas := by
  have hdefinitions : d.definitions = d'.definitions := (congrArg Document.definitions h.rest :)
  have hcomponents : ((d.components.map (·.schemas)).getD []) =
      (d'.components.map (·.schemas)).getD [] := by
    have hc := h.components
    generalize d.components = c at hc ⊢
    generalize d'.components = c' at hc ⊢
    cases hc with
    | none => rfl
    | some hc => exact (congrArg Components.schemas hc.rest :)
  have hschemas : d.schemas = d'.schemas := by
    unfold Document.schemas
    rw [hdefinitions, hcomponents]
  rw [← hschemas]
  exact List.forall₂_same.2 fun x hx =>
    ⟨rfl, trivial, place_within (.inl (mem_schemaPlaces_of_mem_schemas hx)), h.stepsFor x.schema⟩

end Relabels

/-! ## Operations -/

namespace Site

/-- The operations and the documents around them differ in media types at most. -/
structure Relabelled (s s' : Site) : Prop where
  document : s.document.Relabels s'.document
  config : s'.config = s.config
  path : s'.path = s.path
  pathParams : s'.pathParams = s.pathParams
  method : s'.method = s.method
  item : s.item.Relabelled s'.item
  operation : s.operation.Relabelled s'.operation
  item_mem : s.item ∈ s.document.paths.map (·.2)
  operation_mem : (s.method, s.operation) ∈ s.item.operations

variable {s s' : Site} {P : Prop}

theorem schemaRuns_within (h : s.Relabelled s') {place : RefOr Schema}
    (hplace : (Pairing.within s.document).place place place) :
    SchemaRuns (.relabelled P) s s' place place :=
  fun _ _ _ => h.document.holds_within.normalizeSchema hplace (h.document.stepsFor place) trivial

theorem rel_schemaRuns_within (h : s.Relabelled s') {place : Option (RefOr Schema)}
    (hplace : ∀ part ∈ place, s.document.HasPlace part) :
    Option.Rel (SchemaRuns (.relabelled P) s s') place place :=
  rel_same fun part hpart => schemaRuns_within h (place_within (hplace part hpart))

/-! ### Places -/

theorem Relabelled.hasPlace (h : s.Relabelled s') {place : RefOr Schema}
    (hplace : place ∈ Target.pathPlaces s.item) : s.document.HasPlace place :=
  .inl (Target.mem_schemaPlaces_of_mem_pathPlaces h.item_mem hplace)

theorem Relabelled.hasPlace_operation (h : s.Relabelled s') {place : RefOr Schema}
    (hplace : place ∈ Target.operationPlaces s.operation) : s.document.HasPlace place :=
  h.hasPlace (List.mem_append_right _ (List.mem_flatMap.2 ⟨_, h.operation_mem, hplace⟩))

theorem Relabelled.mem_references (h : s.Relabelled s') {r : Ref}
    (hr : r ∈ Target.pathReferences s.item) : r ∈ s.document.references := by
  obtain ⟨e, he, hitem⟩ := List.mem_map.1 h.item_mem
  rw [← hitem] at hr
  exact mem_references_of_mem_outerReferences (List.mem_flatMap.2 ⟨e, he, hr⟩)

theorem Relabelled.mem_references_operation (h : s.Relabelled s') {r : Ref}
    (hr : r ∈ Target.operationReferences s.operation) : r ∈ s.document.references :=
  h.mem_references (List.mem_append_right _ (List.mem_flatMap.2 ⟨_, h.operation_mem, hr⟩))

/-! ### Parameters -/

theorem parameters_relabelled (h : s.Relabelled s') {places : List (RefOr Parameter)}
    (hrefs : ∀ place ∈ places, ∀ r ∈ place.ref?, r ∈ s.document.references)
    (hplaces : ∀ place ∈ (inlineValues places).flatMap Parameter.places, s.document.HasPlace place) :
    List.Forall₂ (fun place place' => (SitePairing.relabelled P).Runs
        (ParameterAlongside (.relabelled P) s s') (s.document.valueAt Parameter place)
        (s'.document.valueAt Parameter place')) places places := by
  refine List.forall₂_same.2 fun place hplace => ?_
  have hself : place.Alongside Eq (ComponentKind.parameter).Relabelled place := by
    cases place with
    | ref r => exact .ref rfl
    | inline a => exact .inline rfl
  have hvalue := h.document.valueAt (L := fun _ _ => True) hself (hrefs place hplace)
  refine hvalue.and_result.imp ?_
  rintro a _ ⟨rfl, ha, -⟩
  have hparts : ∀ part ∈ a.places, s.document.HasPlace part :=
    hasPlace_of_valueAt (k := .parameter) ha fun b hb part hpart => hplaces part
      (List.mem_flatMap.2 ⟨b, List.mem_filterMap.2 ⟨place, hplace, hb⟩, hpart⟩)
  exact ⟨rfl, rel_same fun part hpart => schemaRuns_within h (place_within_of_schema? hparts hpart)⟩

/-! ### Bodies and responses -/

theorem content_relabelled (h : s.Relabelled s') {content content' : List (String × MediaType)}
    (hcontent : ContentRelabelled content content')
    (hplaces : ∀ place ∈ contentPlaces content, s.document.HasPlace place) :
    List.Forall₂ (ContentAlongside (.relabelled P) s s') content content' := by
  refine forall₂_imp_of_mem hcontent ?_
  rintro ⟨mediaType, m⟩ he ⟨mediaType', _⟩ - ⟨hmediaType, rfl⟩
  refine ⟨hmediaType, rel_schemaRuns_within h fun place hplace => hplaces place ?_⟩
  exact List.mem_flatMap.2 ⟨_, he, Option.mem_toList.2 hplace⟩

theorem requestBody_relabelled (h : s.Relabelled s') {place place' : RefOr RequestBody}
    (hplace : place.Alongside Eq RequestBody.Relabelled place')
    (hrefs : ∀ r ∈ place.ref?, r ∈ s.document.references)
    (hplaces : ∀ b ∈ place.inline?, ∀ part ∈ contentPlaces b.content, s.document.HasPlace part) :
    (SitePairing.relabelled P).Runs (BodyAlongside (.relabelled P) s s')
      (s.document.valueAt RequestBody place) (s'.document.valueAt RequestBody place') := by
  have hvalue := h.document.valueAt (k := .requestBody) (L := fun _ _ => True) hplace hrefs
  refine hvalue.and_result.imp ?_
  rintro b b' ⟨hb, hresult, -⟩
  exact ⟨(congrArg RequestBody.description hb.rest :), (congrArg RequestBody.required hb.rest :),
    content_relabelled h hb.content (hasPlace_of_valueAt (k := .requestBody) hresult hplaces)⟩

theorem response_relabelled (h : s.Relabelled s') {place place' : RefOr Response}
    (hplace : place.Alongside Eq Response.Relabelled place')
    (hrefs : ∀ r ∈ place.ref?, r ∈ s.document.references)
    (hplaces : ∀ r ∈ place.inline?, ∀ part ∈ r.places, s.document.HasPlace part) :
    (SitePairing.relabelled P).Runs (ResponseAlongside (.relabelled P) s s')
      (s.document.valueAt Response place) (s'.document.valueAt Response place') := by
  have hvalue := h.document.valueAt (k := .response) (L := fun _ _ => True) hplace hrefs
  refine hvalue.and_result.imp ?_
  rintro r r' ⟨hr, hresult, -⟩
  have hparts : ∀ part ∈ r.places, s.document.HasPlace part :=
    hasPlace_of_valueAt (k := .response) hresult hplaces
  have hschema : r.schema = r'.schema := (congrArg Response.schema hr.rest :)
  refine ⟨(congrArg Response.description hr.rest :), ?_, ?_⟩
  · have hcontent := hr.content
    unfold Response.places at hparts
    generalize r.content = content at hcontent hparts ⊢
    generalize r'.content = content' at hcontent ⊢
    cases hcontent with
    | none => exact .none
    | some hc =>
      exact .some (content_relabelled h hc fun place hplace =>
        hparts place (List.mem_append_left _ hplace))
  · rw [← hschema]
    exact rel_schemaRuns_within h fun place hplace =>
      hparts place (List.mem_append_right _ (Option.mem_toList.2 hplace))

/-! ### Forms -/

/-- The body of the operation is a form without files, and the operation names the media type of forms
in parts, but never plainly: only with parameters, or with blanks around. -/
structure SpellsForm (s : Site) (form : List Located) : Prop extends s.TakesForm form where
  files : form.any (fun x => x.parameter.types.contains .other) = false
  named : ∃ m ∈ s.consumes, MediaType.kind? m = some .formData
  plain : ∀ m ∈ s.consumes, m.map Char.toLower ≠ "multipart/form-data"

/-- Forms are sent in parts if the operation takes forms in parts, however it spells that, or if there is
a file among the fields. -/
theorem isMultipart_iff {form : List Located} (htakes : s.TakesForm form) (h : ¬s.SpellsForm form) :
    s.isMultipart form = true ↔ (∃ m ∈ s.consumes, MediaType.kind? m = some .formData) ∨
      form.any (fun x => x.parameter.types.contains .other) = true := by
  unfold isMultipart
  rw [Bool.or_eq_true, List.any_eq_true]
  constructor
  · rintro (⟨m, hm, hplain⟩ | hfile)
    · exact .inl ⟨m, hm, MediaType.kind?_of_plain (beq_iff_eq.1 hplain)⟩
    · exact .inr hfile
  · rintro (hnamed | hfile)
    · by_cases hfile : form.any (fun x => x.parameter.types.contains .other) = true
      · exact .inr hfile
      · -- Without files, the media type is spelled plainly somewhere.
        by_contra hneither
        rw [not_or] at hneither
        refine h ⟨htakes, Bool.eq_false_iff.2 hfile, hnamed, fun m hm hplain => hneither.1 ?_⟩
        exact ⟨m, hm, beq_iff_eq.2 hplain⟩
    · exact .inr hfile

/-- Media types that are alike name forms in parts alike. -/
theorem exists_formData_iff {mediaTypes mediaTypes' : List String}
    (h : List.Forall₂ MediaType.Alike mediaTypes mediaTypes') :
    (∃ m ∈ mediaTypes, MediaType.kind? m = some .formData) ↔
      ∃ m ∈ mediaTypes', MediaType.kind? m = some .formData := by
  induction h with
  | nil => rfl
  | cons hm _ ih => rw [List.exists_mem_cons_iff, List.exists_mem_cons_iff, ih, hm.kind?]

/-! ### Whole operations -/

theorem mediaTypes_relabelled {own own' : Option (List String)} {shared shared' : List String}
    (hown : Option.Rel (List.Forall₂ MediaType.Alike) own own')
    (hshared : List.Forall₂ MediaType.Alike shared shared') :
    List.Forall₂ MediaType.Alike (own.getD shared) (own'.getD shared') := by
  cases hown with
  | none => exact hshared
  | some h => exact h

theorem securityScheme?_relabelled (h : d.Relabelled d') (name : String) :
    d'.securityScheme? name = d.securityScheme? name := by
  have hdefinitions : d.securityDefinitions = d'.securityDefinitions :=
    (congrArg Document.securityDefinitions h.rest :)
  have hcomponents := h.components
  unfold Document.securityScheme?
  rw [hdefinitions]
  generalize d.components = c at hcomponents ⊢
  generalize d'.components = c' at hcomponents ⊢
  cases hcomponents with
  | none => rfl
  | @some c c' hc =>
    have hschemes : c.securitySchemes = c'.securitySchemes :=
      (congrArg Components.securitySchemes hc.rest :)
    rw [Option.bind_some, Option.bind_some, hschemes]

/-- What normalizing the operation takes is the same in both documents, but for media types. -/
theorem alongside_relabelled (h : s.Relabelled s') :
    s.Alongside (.relabelled ((∃ form, s.SpellsForm form) ∨ ∃ form, s'.SpellsForm form)) s' where
  config := h.config
  path := h.path
  pathParams := h.pathParams
  method := h.method
  summary := h.item.summary.symm
  description := h.item.description.symm
  operation := (congrArg (fun o : Operation => { o with parameters := [] }) h.operation.rest.symm :)
  security := (congrArg Document.security h.document.rest.symm :)
  schemes := securityScheme?_relabelled h.document.toRelabelled
  above := trivial
  here := trivial
  root := trivial
  pathParameters := by
    rw [← h.item.parameters]
    refine parameters_relabelled h (fun place hplace r hr => h.mem_references ?_)
      fun place hplace => h.hasPlace (List.mem_append_left _ hplace)
    exact List.mem_append_left _ (List.mem_filterMap.2 ⟨place, hplace, hr⟩)
  parameters := by
    have hparameters : s.operation.parameters = s'.operation.parameters :=
      (congrArg Operation.parameters h.operation.rest :)
    rw [← hparameters]
    refine parameters_relabelled h (fun place hplace r hr => h.mem_references_operation ?_)
      fun place hplace => h.hasPlace_operation
        (List.mem_append_left _ (List.mem_append_left _ hplace))
    exact List.mem_append_left _ (List.mem_append_left _ (List.mem_filterMap.2 ⟨place, hplace, hr⟩))
  consumes := mediaTypes_relabelled h.operation.consumes h.document.consumes
  produces := mediaTypes_relabelled h.operation.produces h.document.produces
  forms form form' htakes htakes' hform := by
    -- Forms whose media type is spelled plainly, or not at all, are encoded alike.
    by_cases hspells : s.SpellsForm form
    · exact .inl (.inl ⟨form, hspells⟩)
    by_cases hspells' : s'.SpellsForm form'
    · exact .inl (.inr ⟨form', hspells'⟩)
    have hconsumes : List.Forall₂ MediaType.Alike s.consumes s'.consumes :=
      mediaTypes_relabelled h.operation.consumes h.document.consumes
    have hfile : form.any (fun x => x.parameter.types.contains .other) =
        form'.any fun x => x.parameter.types.contains .other := by
      refine any_eq_of_forall₂ hform fun x x' hx => ?_
      rw [hx.parameter.eq]
    right
    rw [Bool.eq_iff_iff, isMultipart_iff htakes hspells, isMultipart_iff htakes' hspells',
      exists_formData_iff hconsumes, hfile]
  requestBody := by
    have hbody := h.operation.requestBody
    have hrefs : ∀ place ∈ s.operation.requestBody, ∀ r ∈ place.ref?, r ∈ s.document.references := by
      intro place hplace r hr
      refine h.mem_references_operation (List.mem_append_left _ (List.mem_append_right _ ?_))
      exact List.mem_filterMap.2 ⟨place, Option.mem_toList.2 hplace, hr⟩
    have hplaces : ∀ place ∈ s.operation.requestBody, ∀ b ∈ place.inline?,
        ∀ part ∈ contentPlaces b.content, s.document.HasPlace part := by
      intro place hplace b hb part hpart
      refine h.hasPlace_operation (List.mem_append_left _ (List.mem_append_right _ ?_))
      exact List.mem_flatMap.2
        ⟨b, List.mem_filterMap.2 ⟨place, Option.mem_toList.2 hplace, hb⟩, hpart⟩
    generalize s.operation.requestBody = place at hbody hrefs hplaces ⊢
    generalize s'.operation.requestBody = place' at hbody ⊢
    cases hbody with
    | none => exact .none
    | some hb => exact .some (requestBody_relabelled h hb (hrefs _ rfl) (hplaces _ rfl))
  responses := by
    refine forall₂_imp_of_mem h.operation.responses fun e he e' _ hr => ⟨hr.1, ?_⟩
    refine response_relabelled h hr.2 (fun r hr => h.mem_references_operation ?_)
      fun r hr part hpart => h.hasPlace_operation ?_
    · exact List.mem_append_right _
        (List.mem_filterMap.2 ⟨e.2, List.mem_map_of_mem he, hr⟩)
    · exact List.mem_append_right _ (List.mem_flatMap.2
        ⟨r, List.mem_filterMap.2 ⟨e.2, List.mem_map_of_mem he, hr⟩, hpart⟩)

end Site

/-! ## Documents -/

/-- The operation of a document with the method and path of one in a model takes a form, and never names
the media type of forms in parts plainly. -/
def SpellsForm (d : Document) (config : Config) (o : Model.Operation) : Prop :=
  ∃ s ∈ d.operationSites config, s.path = o.path ∧ s.method = o.method ∧ ∃ form, s.SpellsForm form

/-- The operations differ at most in media types, which are alike, and in how a form is encoded whose
media type one of the documents does not spell plainly. -/
def OperationRelabelled (d d' : Document) (config : Config) (o o' : Model.Operation) : Prop :=
  o.Alongside MediaType.Alike (d.SpellsForm config o ∨ d'.SpellsForm config o) o'

namespace Site

variable {s s' : Site} {config : Config}

theorem tried_relabelled (h : s.Relabelled s') (hs : s ∈ s.document.operationSites config)
    (hs' : s' ∈ s'.document.operationSites config) :
    s.TriedAlongside (fun _ _ => True) (fun e e' => e.message = e'.message)
      (OperationRelabelled s.document s'.document config) s' where
  label := (alongside_relabelled h).label_eq
  attempt taken := by
    have hlawful := SitePairing.lawful_relabelled
      ((∃ form, s.SpellsForm form) ∨ ∃ form, s'.SpellsForm form)
    refine (chooseId_alongside hlawful (alongside_relabelled h) taken).bind_eq fun id => ?_
    refine (normalize_alongside hlawful (alongside_relabelled h) id).and_result.imp ?_
    rintro o o' ⟨ho, hresult, -⟩
    -- The model keeps no places, so a form that is left open is found by its path and method.
    obtain ⟨-, hpath, hmethod⟩ := fields_of_normalize hresult
    refine ho.imp_forms (Or.imp ?_ ?_)
    · exact fun hform => ⟨s, hs, hpath.symm, hmethod.symm, hform⟩
    · exact fun hform => ⟨s', hs', h.path.trans hpath.symm, h.method.trans hmethod.symm, hform⟩

end Site

/-- The operations of the documents are normalized alongside, one after the other. -/
theorem normalizePaths_relabelled (h : d.Relabels d') (config : Config) :
    (d.normalizePaths config).Alongside (fun _ _ => True) (fun e e' => e.message = e'.message)
      (OperationRelabelled d d' config) (d'.normalizePaths config) := by
  have hid : ∀ o o', OperationRelabelled d d' config o o' → o'.id = o.id :=
    fun _ _ ho => (congrArg Model.Operation.id ho.rest.symm :)
  have hpaths : List.Forall₂ (PathAlongside (fun _ _ => True) (fun e e' => e.message = e'.message)
      (OperationRelabelled d d' config) config d d') d.paths d'.paths := by
    refine forall₂_imp_of_mem h.paths ?_
    rintro ⟨path, item⟩ he ⟨_, item'⟩ he' ⟨rfl, hitem⟩
    refine ⟨rfl, ?_⟩
    unfold sites
    rw [List.forall₂_map_left_iff, List.forall₂_map_right_iff]
    refine forall₂_imp_of_mem hitem.operations ?_
    rintro ⟨method, o⟩ ho ⟨_, o'⟩ ho' ⟨rfl, hrelabelled⟩
    have hs : Site.Relabelled ⟨d, config, path, templateParams path, item, method, o⟩
        ⟨d', config, path, templateParams path, item', method, o'⟩ :=
      ⟨h, rfl, rfl, rfl, rfl, hitem, hrelabelled, List.mem_map.2 ⟨_, he, rfl⟩, ho⟩
    refine Site.tried_relabelled hs ?_ ?_
    · exact List.mem_flatMap.2 ⟨_, he, List.mem_map_of_mem ho⟩
    · exact List.mem_flatMap.2 ⟨_, he', List.mem_map_of_mem ho'⟩
  exact normalizePathsFrom_alongside hid (fun _ => trivial) hpaths []

/-- Of what may be sent, the entry at the same position is chosen. -/
theorem rel_pick?_relabelled (config : Config) {content content' : List (String × MediaType)}
    (h : ContentRelabelled content content') :
    Option.Rel (fun e e' => ∃ i : Nat, content[i]? = some e ∧ content'[i]? = some e')
      (config.pick? (·.1) content) (config.pick? (·.1) content') := by
  have hrank : ∀ e e' : String × MediaType, ((MediaType.Alike e.1 e'.1 ∧ e.2 = e'.2) ∧
      ∃ i : Nat, content[i]? = some e ∧ content'[i]? = some e') →
      config.mediaTypeRank? e.1 = config.mediaTypeRank? e'.1 :=
    fun _ _ he => he.1.1.rank config
  exact rel_imp (fun _ _ he => he.2) (config.rel_pick? hrank (forall₂_position h))

/-- Neither the case nor the parameters of media types matter. Take documents that differ in media types
at most, each of one being like its counterpart in the other, and whose references go on to the same
entries wherever they lead through what is sent. Both fail with the same message, or both come to models
that are the same but for media types, which are alike. Of what may be sent the same entry is chosen in
both. Only how a form is encoded may differ, where one of the documents says that forms are sent in parts
but never spells that plainly. -/
theorem normalize_relabelled (h : d.Relabels d') (config : Config) :
    Both (fun e e' => e.message = e'.message)
        (fun r r' => r.model.Alongside Eq (OperationRelabelled d d' config) r'.model)
        (d.normalize config) (d'.normalize config) ∧
      ∀ content content', ContentRelabelled content content' →
        Option.Rel (fun e e' => ∃ i : Nat, content[i]? = some e ∧ content'[i]? = some e')
          (config.pick? (·.1) content) (config.pick? (·.1) content') := by
  have hkey : ∀ o o', OperationRelabelled d d' config o o' → o.path = o'.path ∧ o.method = o'.method :=
    fun _ _ ho => ⟨(congrArg Model.Operation.path ho.rest :),
      (congrArg Model.Operation.method ho.rest :)⟩
  have hinfo : d.info = d'.info := (congrArg Document.info h.rest :)
  have hnormalize := normalize_alongside h.holds_within h.schemas hinfo hkey
    (normalizePaths_relabelled h config)
  refine ⟨?_, fun _ _ => rel_pick?_relabelled config⟩
  generalize d.normalize config = result at hnormalize ⊢
  generalize d'.normalize config = result' at hnormalize ⊢
  cases hnormalize with
  | ok hr => exact .ok hr.1
  | error he => exact .error he

/-- Notes that are sent and come back under given media types. What comes back is described as what is
sent as JSON. -/
def notes (sent received : String) : Document :=
  { paths := [("/notes", {
      post := some {
        requestBody := some (.inline {
          content := [(sent, { schema := some (.inline { types := [.string] }) })] })
        responses := [("200", .inline {
          content := some [(received, {
            schema := some (.ref
              ⟨"#/paths/~1notes/post/requestBody/content/application~1json/schema"⟩) })] })] } })] }

theorem relabelled_notes {sent sent' received received' : String} (hsent : MediaType.Alike sent sent')
    (hreceived : MediaType.Alike received received') :
    (notes sent received).Relabelled (notes sent' received') where
  rest := rfl
  paths := by
    refine .cons ⟨rfl, rfl, rfl, rfl, fun m => ?_⟩ .nil
    cases m with
    | post =>
      exact .some ⟨rfl, .some (.inline ⟨rfl, .cons ⟨hsent, rfl⟩ .nil⟩),
        .cons ⟨rfl, .inline ⟨rfl, .some (.cons ⟨hreceived, rfl⟩ .nil)⟩⟩ .nil, .none, .none⟩
    | _ => exact .none
  components := .none
  responses := .nil
  consumes := .nil
  produces := .nil

theorem normalize_relabelled_notes :
    (notes "application/json" "text/plain").Relabels
        (notes "application/json" "Text/Plain; charset=utf-8") ∧
      (∃ r r', (notes "application/json" "text/plain").normalize {} = .ok r ∧
        (notes "application/json" "Text/Plain; charset=utf-8").normalize {} = .ok r' ∧
        r.model.Alongside Eq (OperationRelabelled (notes "application/json" "text/plain")
          (notes "application/json" "Text/Plain; charset=utf-8") {}) r'.model) ∧
      ContentRelabelled [("text/plain", {}), ("application/json", {})]
        [("TEXT/plain", {}), ("application/json;v=1", {})] ∧
      Option.Rel (fun e e' => ∃ i : Nat,
          [("text/plain", ({} : Document.MediaType)), ("application/json", {})][i]? = some e ∧
          [("TEXT/plain", ({} : Document.MediaType)), ("application/json;v=1", {})][i]? = some e')
        (({} : Config).pick? (·.1) [("text/plain", {}), ("application/json", {})])
        (({} : Config).pick? (·.1) [("TEXT/plain", {}), ("application/json;v=1", {})]) := by
  have hnotes : (notes "application/json" "text/plain").Relabels
      (notes "application/json" "Text/Plain; charset=utf-8") :=
    ⟨relabelled_notes (by decide) (by decide), by decide +kernel⟩
  have hcontent : ContentRelabelled [("text/plain", {}), ("application/json", {})]
      [("TEXT/plain", {}), ("application/json;v=1", {})] :=
    .cons ⟨by decide, rfl⟩ (.cons ⟨by decide, rfl⟩ .nil)
  have hok : ((notes "application/json" "text/plain").normalize {}).toOption.isSome = true := by
    decide +kernel
  obtain ⟨hboth, hpick⟩ := normalize_relabelled hnotes {}
  refine ⟨hnotes, ?_, hcontent, hpick _ _ hcontent⟩
  generalize (notes "application/json" "text/plain").normalize {} = result at hok hboth ⊢
  generalize (notes "application/json" "Text/Plain; charset=utf-8").normalize {} = result'
    at hboth ⊢
  cases hboth with
  | ok hr => exact ⟨_, _, rfl, rfl, hr⟩
  | error _ => cases hok

/-- A reference through what is sent fails if the case of the media type that it names changes. -/
theorem normalize_notes_capitals :
    (notes "application/json" "text/plain").Relabelled (notes "Application/JSON" "text/plain") ∧
      ((notes "application/json" "text/plain").normalize {}).toOption.isSome = true ∧
      ((notes "Application/JSON" "text/plain").normalize {}).toOption.isSome = false :=
  ⟨relabelled_notes (by decide) (.refl _), by decide +kernel, by decide +kernel⟩

end Document

end ApiShape
