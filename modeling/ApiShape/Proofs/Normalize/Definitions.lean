import ApiShape.Proofs.Alongside.Paths
import ApiShape.Proofs.Document.OtherKinds

/-!
# Both layouts of named schemas

A document of version 3 and the document of version 2 that has its named schemas as definitions
normalize alike. Their operations run alongside: they come to the same schemas, with references changed,
at the same locations, and what is made of them is equal.
-/

namespace ApiShape

variable {l l' : String}

/-! ## Locations of operations -/

theorem IsElsewhere.locate (h : IsElsewhere l) (segments : List String) :
    IsElsewhere (locate l segments) :=
  h.append _

theorem IsElsewhere.moves (h : IsElsewhere l) : LocationMoves l l :=
  .inr ⟨rfl, h⟩

/-- Operations and what becomes of them are the same, but for locations when schemas move. -/
def SitePairing.moved : SitePairing where
  location := LocationMoves
  error _ _ := True
  mediaType := Eq
  openForms := False

theorem SitePairing.lawful_moved : moved.Lawful where
  same _ := rfl
  rank _ _ _ h := h ▸ rfl
  kind _ _ h := h ▸ rfl
  append _ _ part hl := hl.append part
  content _ _ _ _ _ _ hl hm := hm ▸ hl.append _
  duplicate _ _ _ := trivial

namespace Document

theorem isElsewhere_paths (path : String) : IsElsewhere (locate "#" ["paths", path]) := by
  unfold locate
  rw [Pointer.text_cons, String.append_assoc]
  refine ⟨'p', "aths".toList ++ (Pointer.text ⟨[path]⟩).toList, by decide, ?_⟩
  simp only [String.toList_append]
  rfl

theorem isElsewhere_security : IsElsewhere (locate "#" ["security"]) :=
  ⟨'s', "ecurity".toList, by decide, rfl⟩

namespace Site

/-- The operation in its place, once schemas have moved. -/
def asDefinitions (s : Site) : Site :=
  { s with
    document := s.document.asDefinitions
    item := s.item.revised .relocated
    operation := s.operation.revised .relocated }

/-- All references to schemas in the operation and around it can be changed. -/
structure IsRelocatable (s : Site) : Prop where
  document : s.document.IsRelocatable
  item : ∀ place ∈ Target.pathPlaces s.item, Schema.IsRelocatable place
  operation : ∀ place ∈ Target.operationPlaces s.operation, Schema.IsRelocatable place

variable {s : Site}

/-! ## Schemas of operations -/

theorem schemaRuns_moved (hs : s.IsRelocatable) {place : RefOr Schema}
    (hplace : Schema.IsRelocatable place) :
    SchemaRuns .moved s s.asDefinitions place (Schema.revisedPlace .relocated place) :=
  fun _ _ hl => hs.document.holds_moved.normalizeSchema (Pairing.place_moved hplace)
    (stepsFor_asDefinitions hs.document.definitions place).symm hl

theorem rel_schemaRuns_moved (hs : s.IsRelocatable) {place : Option (RefOr Schema)}
    (hplace : ∀ part ∈ place, Schema.IsRelocatable part) :
    Option.Rel (SchemaRuns .moved s s.asDefinitions) place
      (place.map (Schema.revisedPlace .relocated)) :=
  rel_map fun part hpart => schemaRuns_moved hs (hplace part hpart)

/-! ## Parameters -/

/-- A schema that a parameter makes of its own fields has references at its items only. -/
theorem schema?_moves {p : Parameter} (hp : ∀ place ∈ p.places, Schema.IsRelocatable place) :
    (p.revised .relocated).schema? = p.schema?.map (Schema.revisedPlace .relocated) ∧
      ∀ place ∈ p.schema?, Schema.IsRelocatable place := by
  unfold Parameter.schema?
  cases hschema : p.schema with
  | some place =>
    have hrevised : (p.revised .relocated).schema = some (Schema.revisedPlace .relocated place) :=
      congrArg (Option.map _) hschema
    rw [hrevised]
    refine ⟨rfl, ?_⟩
    rintro _ ⟨⟩
    refine hp place (List.mem_append_left _ ?_)
    rw [hschema]
    exact List.mem_singleton_self place
  | none =>
    have hrevised : (p.revised .relocated).schema = none := congrArg (Option.map _) hschema
    rw [hrevised]
    by_cases hbare : (p.types.isEmpty && p.enum.isNone) = true
    · -- There is nothing to make a schema of.
      have hbare' : ((p.revised .relocated).types.isEmpty &&
          (p.revised .relocated).enum.isNone) = true := hbare
      dsimp only
      rw [if_pos hbare, if_pos hbare']
      refine ⟨rfl, ?_⟩
      rintro _ ⟨⟩
    · have hbare' : ¬((p.revised .relocated).types.isEmpty &&
          (p.revised .relocated).enum.isNone) = true := hbare
      dsimp only
      rw [if_neg hbare, if_neg hbare']
      refine ⟨?_, ?_⟩
      · rw [Option.map_some, Schema.revisedPlace, Schema.revised_eq]
        rfl
      · -- What is made has no discriminator, and no other part than the items.
        rintro _ ⟨⟩
        refine Schema.isRelocatable_inline_iff.2 ⟨?_, fun part hpart => hp part ?_⟩
        · rintro _ ⟨⟩
        refine List.mem_append_right _ ?_
        simpa [Schema.parts] using hpart

theorem parameters_moved (hs : s.IsRelocatable) {places : List (RefOr Parameter)}
    (hplaces : ∀ place ∈ (inlineValues places).flatMap Parameter.places, Schema.IsRelocatable place) :
    List.Forall₂ (fun place place' => SitePairing.moved.Runs
        (ParameterAlongside .moved s s.asDefinitions) (s.document.valueAt Parameter place)
        (s.asDefinitions.document.valueAt Parameter place'))
      places (places.map (RefOr.onBoth id (Parameter.revised .relocated))) := by
  refine forall₂_map fun place hplace => ?_
  have hvalue := hs.document.valueAt apart_parameter fun a ha part hpart => hplaces part
    (List.mem_flatMap.2 ⟨a, List.mem_filterMap.2 ⟨place, hplace, ha⟩, hpart⟩)
  refine hvalue.imp ?_
  rintro a _ ⟨rfl, ha⟩
  obtain ⟨hschema, hrelocatable⟩ := schema?_moves ha
  exact ⟨rfl, hschema ▸ rel_schemaRuns_moved hs hrelocatable⟩

/-! ## Bodies and responses -/

theorem content_moved (hs : s.IsRelocatable) {content : List (String × MediaType)}
    (h : ∀ place ∈ contentPlaces content, Schema.IsRelocatable place) :
    List.Forall₂ (ContentAlongside .moved s s.asDefinitions) content
      (content.map (onEntry (MediaType.revised .relocated))) := by
  refine forall₂_map fun e he => ⟨rfl, rel_schemaRuns_moved hs fun place hplace => h place ?_⟩
  exact List.mem_flatMap.2 ⟨e, he, Option.mem_toList.2 hplace⟩

theorem requestBody_moved (hs : s.IsRelocatable) {place : RefOr RequestBody}
    (hplace : ∀ b ∈ place.inline?, ∀ part ∈ contentPlaces b.content, Schema.IsRelocatable part) :
    SitePairing.moved.Runs (BodyAlongside .moved s s.asDefinitions)
      (s.document.valueAt RequestBody place)
      (s.asDefinitions.document.valueAt RequestBody
        (place.onBoth id (RequestBody.revised .relocated))) := by
  refine (hs.document.valueAt apart_requestBody hplace).imp ?_
  rintro b _ ⟨rfl, hb⟩
  exact ⟨rfl, rfl, content_moved hs hb⟩

theorem response_moved (hs : s.IsRelocatable) {place : RefOr Response}
    (hplace : ∀ r ∈ place.inline?, ∀ part ∈ r.places, Schema.IsRelocatable part) :
    SitePairing.moved.Runs (ResponseAlongside .moved s s.asDefinitions)
      (s.document.valueAt Response place)
      (s.asDefinitions.document.valueAt Response
        (place.onBoth id (Response.revised .relocated))) := by
  refine (hs.document.valueAt apart_response hplace).imp ?_
  rintro r _ ⟨rfl, hr⟩
  refine ⟨rfl, rel_map fun content hcontent => content_moved hs fun place hplace => hr place ?_,
    rel_schemaRuns_moved hs fun place hplace => hr place ?_⟩
  · refine List.mem_append_left _ ?_
    rwa [hcontent]
  · exact List.mem_append_right _ (Option.mem_toList.2 hplace)

/-! ## Operations -/

theorem securityScheme?_asDefinitions (d : Document) (name : String) :
    d.asDefinitions.securityScheme? name = d.securityScheme? name := by
  have hcomponents : d.asDefinitions.components =
    (d.components.map (Components.revised .relocated)).map fun c => { c with schemas := [] } := rfl
  unfold Document.securityScheme?
  rw [hcomponents]
  cases d.components <;> rfl

/-- The operation runs alongside the one that it is once schemas have moved. -/
theorem alongside_moved (hs : s.IsRelocatable) : s.Alongside .moved s.asDefinitions where
  config := rfl
  path := rfl
  pathParams := rfl
  method := rfl
  summary := rfl
  description := rfl
  operation := rfl
  security := rfl
  schemes := securityScheme?_asDefinitions s.document
  above := (isElsewhere_paths s.path).moves
  here := ((isElsewhere_paths s.path).locate _).moves
  root := isElsewhere_security.moves
  pathParameters := parameters_moved hs fun place hplace => hs.item place (List.mem_append_left _ hplace)
  parameters := parameters_moved hs fun place hplace =>
    hs.operation place (List.mem_append_left _ (List.mem_append_left _ hplace))
  consumes := List.forall₂_same.2 fun _ _ => rfl
  produces := List.forall₂_same.2 fun _ _ => rfl
  forms form form' _ _ hform := by
    right
    -- Whether there is a file among the fields stays.
    have hfile : form.any (fun x => x.parameter.types.contains .other) =
        form'.any fun x => x.parameter.types.contains .other := by
      refine any_eq_of_forall₂ hform fun x x' hx => ?_
      rw [hx.parameter.eq]
    unfold isMultipart
    rw [hfile]
    rfl
  requestBody := by
    refine rel_map fun place hplace => requestBody_moved hs fun b hb part hpart => ?_
    refine hs.operation part (List.mem_append_left _ (List.mem_append_right _ ?_))
    exact List.mem_flatMap.2
      ⟨b, List.mem_filterMap.2 ⟨place, Option.mem_toList.2 hplace, hb⟩, hpart⟩
  responses := by
    refine forall₂_map fun e he => ⟨rfl, response_moved hs fun r hr part hpart => ?_⟩
    refine hs.operation part (List.mem_append_right _ (List.mem_flatMap.2 ⟨r, ?_, hpart⟩))
    exact List.mem_filterMap.2 ⟨e.2, List.mem_map.2 ⟨e, he, rfl⟩, hr⟩

theorem tried_moved (hs : s.IsRelocatable) :
    s.TriedAlongside LocationMoves (fun _ _ => True) Eq s.asDefinitions where
  label := (alongside_moved hs).label_eq
  attempt taken := by
    refine (chooseId_alongside SitePairing.lawful_moved (alongside_moved hs) taken).bind_eq fun id => ?_
    exact (normalize_alongside SitePairing.lawful_moved (alongside_moved hs) id).imp fun _ _ ho => ho.eq

end Site

/-! ## Paths -/

theorem sites_asDefinitions (d : Document) (config : Config) (path : String) (item : PathItem)
    (params : List String) :
    d.asDefinitions.sites config path (item.revised .relocated) params =
      (d.sites config path item params).map Site.asDefinitions := by
  unfold sites
  rw [operations_revised, List.map_map, List.map_map]
  rfl

variable {d : Document}

theorem isRelocatable_of_mem_sites (h : d.IsRelocatable) {config : Config} {path : String}
    {item : PathItem} (hitem : item ∈ d.paths.map (·.2)) {params : List String} {s : Site}
    (hs : s ∈ d.sites config path item params) : s.IsRelocatable := by
  obtain ⟨⟨method, o⟩, ho, rfl⟩ := List.mem_map.1 hs
  have hplaces : ∀ place ∈ Target.pathPlaces item, Schema.IsRelocatable place := fun place hplace =>
    h.places place (Target.mem_schemaPlaces_of_mem_pathPlaces hitem hplace)
  refine ⟨h, hplaces, fun place hplace => hplaces place ?_⟩
  exact List.mem_append_right _ (List.mem_flatMap.2 ⟨_, ho, hplace⟩)

theorem normalizePaths_moved (h : d.IsRelocatable) (config : Config) :
    (d.normalizePaths config).Alongside LocationMoves (fun _ _ => True) Eq
      (d.asDefinitions.normalizePaths config) := by
  have hpaths : List.Forall₂ (PathAlongside LocationMoves (fun _ _ => True) Eq config d
      d.asDefinitions) d.paths (d.paths.map (onEntry (PathItem.revised .relocated))) := by
    refine forall₂_map fun e he => ⟨rfl, ?_⟩
    have hitem : e.2 ∈ d.paths.map (·.2) := List.mem_map_of_mem he
    rw [onEntry, sites_asDefinitions]
    exact forall₂_map fun s hs => Site.tried_moved (isRelocatable_of_mem_sites h hitem hs)
  have hid : ∀ o o' : Model.Operation, o = o' → o'.id = o.id := fun _ _ ho => ho ▸ rfl
  exact normalizePathsFrom_alongside hid (fun path => (isElsewhere_paths path).moves) hpaths []

/-! ## Named schemas -/

/-- A named schema among others that lie at a location. -/
def NamedSchema.ofEntry (root : String) (e : String × RefOr Schema) : NamedSchema :=
  ⟨e.1, e.2, root ++ "/" ++ Pointer.escape e.1⟩

theorem schemas_eq (d : Document) :
    d.schemas = d.componentSchemas.map (.ofEntry "#/components/schemas") ++
      d.definitions.map (.ofEntry "#/definitions") :=
  rfl

/-- The named schemas of the components are the definitions then. -/
theorem schemas_moves (h : d.IsRelocatable) :
    List.Forall₂ (NamedSchema.Alongside .moved d d.asDefinitions) d.schemas
      d.asDefinitions.schemas := by
  have hcomponents : d.asDefinitions.componentSchemas = [] := by
    show (((d.components.map (Components.revised .relocated)).map fun c =>
      { c with schemas := [] }).map (·.schemas)).getD [] = []
    cases d.components <;> rfl
  have hdefinitions : d.asDefinitions.definitions =
      d.componentSchemas.map (onEntry (Schema.revisedPlace .relocated)) :=
    componentSchemas_revised _ d
  -- One document has nothing but components, the other nothing but definitions.
  rw [schemas_eq, schemas_eq, h.definitions, hcomponents, hdefinitions, List.map_nil, List.map_nil,
    List.append_nil, List.nil_append, List.map_map, List.forall₂_map_left_iff,
    List.forall₂_map_right_iff, List.forall₂_same]
  intro e he
  have hnamed : .ofEntry "#/components/schemas" e ∈ d.schemas :=
    List.mem_append_left _ (List.mem_map_of_mem he)
  have hplace := h.places e.2 (mem_schemaPlaces_of_mem_schemas hnamed)
  exact ⟨rfl, .inl ⟨Pointer.escape e.1, rfl, rfl⟩, Pairing.place_moved hplace,
    (stepsFor_asDefinitions h.definitions e.2).symm⟩

end Document

/-- The diagnostic, with its location in a definition if it lies in a named schema of the components. -/
def Diagnostic.relocated (x : Diagnostic) : Diagnostic :=
  { x with location := ApiShape.relocated x.location }

theorem Diagnostic.eq_relocated {x y : Diagnostic} (h : x.Alongside LocationMoves y) :
    y = x.relocated := by
  obtain ⟨kind, message, location⟩ := y
  obtain ⟨rfl, rfl, hlocation⟩ := h
  unfold relocated
  rw [← hlocation.eq_relocated]

/-- Models with equal nodes and operations are equal. -/
theorem Model.Alongside.eq {m m' : Model} (h : m.Alongside Eq Eq m') : m = m' := by
  obtain ⟨hinfo, hschemas, hpaths⟩ := h
  have hschemas : m.schemas = m'.schemas :=
    List.forall₂_eq_eq_eq ▸ hschemas.imp fun _ _ he => Prod.ext he.1 he.2
  have hpaths : m.paths = m'.paths :=
    List.forall₂_eq_eq_eq ▸ hpaths.imp fun _ _ he => Prod.ext he.1 (List.forall₂_eq_eq_eq ▸ he.2)
  cases m
  cases m'
  cases hinfo
  cases hschemas
  cases hpaths
  rfl

/-- Both layouts of named schemas agree. Take a document without definitions whose references to
schemas, those in mappings included, point right at named schemas of the components. If it normalizes,
then so does the document with these schemas as definitions, to the same model, and with the same
diagnostics at the places where the schemas lie now. -/
theorem Document.normalize_asDefinitions {d : Document} (h : d.IsRelocatable) (config : Config)
    {r : Normalized} (hr : d.normalize config = .ok r) :
    d.asDefinitions.normalize config = .ok ⟨r.model, r.diagnostics.map Diagnostic.relocated⟩ := by
  have hkey : ∀ o o' : Model.Operation, o = o' → o.path = o'.path ∧ o.method = o'.method :=
    fun _ _ ho => ho ▸ ⟨rfl, rfl⟩
  have hnormalize := normalize_alongside h.holds_moved (schemas_moves h) rfl hkey
    (normalizePaths_moved h config)
  rw [hr] at hnormalize
  generalize d.asDefinitions.normalize config = result at hnormalize ⊢
  cases hnormalize with
  | @ok _ r' h =>
    obtain ⟨hmodel, hdiagnostics⟩ := h
    have hrelocated : r'.diagnostics = r.diagnostics.map Diagnostic.relocated := by
      rw [← List.forall₂_eq_eq_eq, List.forall₂_map_right_iff]
      exact hdiagnostics.flip.imp fun _ _ hx => Diagnostic.eq_relocated hx
    rw [show r.model = r'.model from Model.Alongside.eq hmodel, ← hrelocated]

namespace Document

/-- A shed with tools and boxes, of a color that can be no list, in the layout of version 3. -/
def shedComponents : Document :=
  { components := some { schemas := [
      ("tool box", .inline {
        types := [.object]
        properties := some [("color", .inline { enum := some [.string "red", .array []] })] }),
      ("Hammer", .inline { allOf := some [.ref ⟨"#/components/schemas/tool%20box"⟩] }),
      ("Shed", .inline {
        types := [.array]
        items := some (.inline {
          oneOf := some [
            .ref ⟨"#/components/schemas/tool%20box"⟩, .ref ⟨"#/components/schemas/Hammer"⟩]
          discriminator := some {
            propertyName := "kind"
            mapping := [("box", "#/components/schemas/tool%20box"), ("tool", "Hammer")] } }) })] }
    paths := [("/shed", {
      get := some {
        operationId := some "shed"
        responses := [("200", .inline {
          content := some [("application/json", {
            schema := some (.ref ⟨"#/components/schemas/Shed"⟩) })] })] } })] }

/-- The same shed in the layout of version 2. -/
def shedDefinitions : Document :=
  { components := some {}
    definitions := [
      ("tool box", .inline {
        types := [.object]
        properties := some [("color", .inline { enum := some [.string "red", .array []] })] }),
      ("Hammer", .inline { allOf := some [.ref ⟨"#/definitions/tool%20box"⟩] }),
      ("Shed", .inline {
        types := [.array]
        items := some (.inline {
          oneOf := some [.ref ⟨"#/definitions/tool%20box"⟩, .ref ⟨"#/definitions/Hammer"⟩]
          discriminator := some {
            propertyName := "kind"
            mapping := [("box", "#/definitions/tool%20box"), ("tool", "Hammer")] } }) })]
    paths := [("/shed", {
      get := some {
        operationId := some "shed"
        responses := [("200", .inline {
          content := some [("application/json", {
            schema := some (.ref ⟨"#/definitions/Shed"⟩) })] })] } })] }

theorem asDefinitions_shedComponents : shedComponents.asDefinitions = shedDefinitions := by
  rfl

theorem normalize_asDefinitions_shed : shedComponents.IsRelocatable ∧
    ∃ r, shedComponents.normalize {} = .ok r ∧
      r.diagnostics.map (·.location) =
        ["#/components/schemas/tool box/properties/color/enum/1"] ∧
      shedDefinitions.normalize {} = .ok ⟨r.model, r.diagnostics.map Diagnostic.relocated⟩ := by
  have hshed : shedComponents.IsRelocatable := by decide +kernel
  have hlocations : (shedComponents.normalize {}).toOption.map
      (fun r => r.diagnostics.map (·.location)) =
        some ["#/components/schemas/tool box/properties/color/enum/1"] := by decide +kernel
  obtain ⟨r, hr, hdiagnostics⟩ := Option.map_eq_some_iff.1 hlocations
  have hok := eq_ok_of_toOption hr
  have hdefinitions := normalize_asDefinitions hshed {} hok
  rw [asDefinitions_shedComponents] at hdefinitions
  exact ⟨hshed, r, hok, hdiagnostics, hdefinitions⟩

end Document

end ApiShape
