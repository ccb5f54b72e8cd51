import ApiShape.Proofs.Alongside.Schema
import ApiShape.Proofs.MediaType
import ApiShape.Proofs.Normalize.Security

/-!
# Operations side by side

Two operations in their places whose parts correspond: they take corresponding parameters, bodies and
responses, under media types that correspond. If the schemas that they ask for are normalized
alongside, then so are the operations, and they come to operations that differ in media types at most.
-/

namespace ApiShape

variable {α β γ δ : Type}

/-- How two operations, and what becomes of them, correspond. -/
structure SitePairing where
  location : String → String → Prop
  error : NormalizeError → NormalizeError → Prop
  mediaType : String → String → Prop
  /-- How forms are encoded is left open. -/
  openForms : Prop

/-- The computations run alongside, and come to related results. -/
abbrev SitePairing.Runs (p : SitePairing) (R : α → β → Prop) (r : Report NormalizeError α)
    (r' : Report NormalizeError β) : Prop :=
  r.Alongside p.location p.error R r'

/-- Corresponding media types are ranked alike and of the same kind, locations correspond if they go on
with equal parts or with corresponding media types, and repeated IDs are the same errors. -/
structure SitePairing.Lawful (p : SitePairing) : Prop where
  same : ∀ m, p.mediaType m m
  rank : ∀ (config : Config) m m', p.mediaType m m' →
    config.mediaTypeRank? m = config.mediaTypeRank? m'
  kind : ∀ m m', p.mediaType m m' → MediaType.kind? m = MediaType.kind? m'
  append : ∀ l l' part, p.location l l' → p.location (l ++ part) (l' ++ part)
  content : ∀ l l' before m m' after, p.location l l' → p.mediaType m m' →
    p.location (locate l (before ++ m :: after)) (locate l' (before ++ m' :: after))
  duplicate : ∀ id first second, p.error (.duplicateOperationId id first second)
    (.duplicateOperationId id first second)

/-! ## What becomes of operations -/

namespace Model

/-- The bodies have the same schema, and media types that correspond and are of the same kind, unless
forms are left open. -/
structure Body.Alongside (M : String → String → Prop) (openForms : Prop) (b b' : Body) : Prop where
  schema : b.schema = b'.schema
  required : b.required = b'.required
  encoding : openForms ∨ M b.mediaType b'.mediaType ∧ b.kind = b'.kind

/-- The responses have the same schema, and media types that correspond and are of the same kind. -/
structure Response.Alongside (M : String → String → Prop) (r r' : Response) : Prop where
  schema : r.schema = r'.schema
  mediaType : Option.Rel (fun m m' => M m m' ∧ MediaType.kind? m = MediaType.kind? m')
    r.mediaType r'.mediaType

/-- The operations differ in the media types of the body and of the responses at most. -/
structure Operation.Alongside (M : String → String → Prop) (openForms : Prop) (o o' : Operation) :
    Prop where
  rest : { o with body := none, responses := [] } = { o' with body := none, responses := [] }
  body : Option.Rel (Body.Alongside M openForms) o.body o'.body
  responses : List.Forall₂ (Named (Response.Alongside M)) o.responses o'.responses

theorem Body.Alongside.eq {b b' : Body} (h : b.Alongside Eq False b') : b = b' := by
  obtain ⟨hschema, hrequired, hopen | ⟨hmediaType, hkind⟩⟩ := h
  · cases hopen
  · cases b
    cases b'
    cases hschema
    cases hrequired
    cases hmediaType
    cases hkind
    rfl

theorem Response.Alongside.eq {r r' : Response} (h : r.Alongside Eq r') : r = r' := by
  obtain ⟨hschema, hmediaType⟩ := h
  cases r
  cases r'
  cases hschema
  cases hmediaType with
  | none => rfl
  | some h => exact congrArg (Response.mk · _) (congrArg some h.1)

/-- Operations whose media types are equal are equal. -/
theorem Operation.Alongside.eq {o o' : Operation} (h : o.Alongside Eq False o') : o = o' := by
  obtain ⟨hrest, hbody, hresponses⟩ := h
  have hbody : o.body = o'.body := by
    generalize o.body = body at hbody
    generalize o'.body = body' at hbody
    cases hbody with
    | none => rfl
    | some h => exact congrArg some h.eq
  have hresponses : o.responses = o'.responses :=
    List.forall₂_eq_eq_eq ▸ hresponses.imp fun _ _ he => Prod.ext he.1 he.2.eq
  cases o
  cases o'
  cases hbody
  cases hresponses
  cases hrest
  rfl

end Model

namespace Document.Site

/-! ## What corresponds -/

/-- The schemas are normalized alongside at corresponding locations. -/
def SchemaRuns (p : SitePairing) (s s' : Site) (place place' : RefOr Schema) : Prop :=
  ∀ l l', p.location l l' →
    p.Runs Eq (s.document.normalizeSchema place l) (s'.document.normalizeSchema place' l')

/-- The parameters differ in schemas at most, which are normalized alongside. -/
structure ParameterAlongside (p : SitePairing) (s s' : Site) (a a' : Parameter) : Prop where
  rest : { a with schema := none, items := none } = { a' with schema := none, items := none }
  schema : Option.Rel (SchemaRuns p s s') a.schema? a'.schema?

theorem ParameterAlongside.eq {p : SitePairing} {s s' : Site} {a a' : Parameter}
    (h : ParameterAlongside p s s' a a') : a' = { a with schema := a'.schema, items := a'.items } := by
  obtain ⟨hrest, -⟩ := h
  cases a
  cases a'
  cases hrest
  rfl

/-- The parameters correspond and lie at corresponding locations. -/
structure Located.Alongside (p : SitePairing) (s s' : Site) (x x' : Located) : Prop where
  parameter : ParameterAlongside p s s' x.parameter x'.parameter
  location : p.location x.location x'.location

/-- Schemas that are normalized alongside are sent under media types that correspond. -/
structure ContentAlongside (p : SitePairing) (s s' : Site) (e e' : String × MediaType) : Prop where
  mediaType : p.mediaType e.1 e'.1
  schema : Option.Rel (SchemaRuns p s s') e.2.schema e'.2.schema

/-- The bodies differ in what is sent at most, which corresponds. -/
structure BodyAlongside (p : SitePairing) (s s' : Site) (b b' : RequestBody) : Prop where
  description : b.description = b'.description
  required : b.required = b'.required
  content : List.Forall₂ (ContentAlongside p s s') b.content b'.content

/-- The responses differ in what is sent at most, which corresponds. -/
structure ResponseAlongside (p : SitePairing) (s s' : Site) (r r' : Response) : Prop where
  description : r.description = r'.description
  content : Option.Rel (List.Forall₂ (ContentAlongside p s s')) r.content r'.content
  schema : Option.Rel (SchemaRuns p s s') r.schema r'.schema

/-- The body of the operation, if it has any, is the form: there is no request body, and none of the
parameters is one. -/
structure TakesForm (s : Site) (form : List Located) : Prop where
  requestBody : s.operation.requestBody = none
  parameters : ∃ merged, s.mergedParameters.result = .ok merged ∧
    merged.filter (fun x => x.parameter.location == .body) = [] ∧
    merged.filter (fun x => x.parameter.location == .formData) = form

/-- The operations differ at most in media types, which correspond, and in parts that do. -/
structure Alongside (p : SitePairing) (s s' : Site) : Prop where
  config : s'.config = s.config
  path : s'.path = s.path
  pathParams : s'.pathParams = s.pathParams
  method : s'.method = s.method
  summary : s'.item.summary = s.item.summary
  description : s'.item.description = s.item.description
  operation : { s'.operation with
      parameters := [], requestBody := none, responses := [], consumes := none, produces := none } =
    { s.operation with
      parameters := [], requestBody := none, responses := [], consumes := none, produces := none }
  security : s'.document.security = s.document.security
  schemes : ∀ name, s'.document.securityScheme? name = s.document.securityScheme? name
  above : p.location s.pathLocation s.pathLocation
  here : p.location s.location s.location
  root : p.location (locate "#" ["security"]) (locate "#" ["security"])
  pathParameters : List.Forall₂ (fun place place' => p.Runs (ParameterAlongside p s s')
    (s.document.valueAt Parameter place) (s'.document.valueAt Parameter place'))
    s.item.parameters s'.item.parameters
  parameters : List.Forall₂ (fun place place' => p.Runs (ParameterAlongside p s s')
    (s.document.valueAt Parameter place) (s'.document.valueAt Parameter place'))
    s.operation.parameters s'.operation.parameters
  consumes : List.Forall₂ p.mediaType s.consumes s'.consumes
  produces : List.Forall₂ p.mediaType s.produces s'.produces
  forms : ∀ form form', s.TakesForm form → s'.TakesForm form' →
    List.Forall₂ (Located.Alongside p s s') form form' →
    p.openForms ∨ s.isMultipart form = s'.isMultipart form'
  requestBody : Option.Rel (fun place place' => p.Runs (BodyAlongside p s s')
    (s.document.valueAt RequestBody place) (s'.document.valueAt RequestBody place'))
    s.operation.requestBody s'.operation.requestBody
  responses : List.Forall₂ (Named fun place place' => p.Runs (ResponseAlongside p s s')
    (s.document.valueAt Response place) (s'.document.valueAt Response place'))
    s.operation.responses s'.operation.responses

variable {p : SitePairing} {s s' : Site} {l l' : String}

theorem Alongside.location_eq (h : s.Alongside p s') : s'.location = s.location := by
  unfold location pathLocation
  rw [h.path, h.method]

theorem Alongside.label_eq (h : s.Alongside p s') : s'.label = s.label := by
  unfold label
  rw [h.path, h.method]

theorem Alongside.rawId_eq (h : s.Alongside p s') : s'.rawId = s.rawId := by
  unfold rawId
  have hid : s'.operation.operationId = s.operation.operationId :=
    (congrArg Operation.operationId h.operation :)
  rw [h.path, h.method, hid]

theorem nodeOr_alongside (otherwise : Node) {place place' : Option (RefOr Schema)}
    (hplace : Option.Rel (SchemaRuns p s s') place place') (hl : p.location l l') :
    p.Runs Eq (s.nodeOr otherwise l place) (s'.nodeOr otherwise l' place') := by
  cases hplace with
  | none => exact .pure rfl
  | some h => exact h l l' hl

/-! ## Parameters -/

theorem locatedParameters_alongside (hp : p.Lawful) (hl : p.location l l')
    {places places' : List (RefOr Parameter)}
    (h : List.Forall₂ (fun place place' => p.Runs (ParameterAlongside p s s')
      (s.document.valueAt Parameter place) (s'.document.valueAt Parameter place')) places places') :
    p.Runs (List.Forall₂ (Located.Alongside p s s')) (s.locatedParameters l places)
      (s'.locatedParameters l' places') := by
  refine Report.Alongside.traverse ((forall₂_zipIdx h 0).imp ?_)
  rintro ⟨place, i⟩ ⟨place', _⟩ ⟨hvalue, rfl⟩
  exact hvalue.bind fun a a' ha => .pure ⟨ha, hp.append _ _ _ hl⟩

theorem sameKey_alongside {x x' y y' : Located} (hx : x.Alongside p s s' x')
    (hy : y.Alongside p s s' y') : x.sameKey y = x'.sameKey y' := by
  unfold Located.sameKey
  rw [hx.parameter.eq, hy.parameter.eq]

/-- Corresponding parameters take the places of corresponding parameters. -/
theorem mergeParameter_alongside {merged merged' : List Located}
    (hmerged : List.Forall₂ (Located.Alongside p s s') merged merged') {x x' : Located}
    (hx : x.Alongside p s s' x') :
    List.Forall₂ (Located.Alongside p s s') (mergeParameter merged x) (mergeParameter merged' x') := by
  induction hmerged with
  | nil => exact .cons hx .nil
  | cons hy hrest ih =>
    rw [mergeParameter, mergeParameter, sameKey_alongside hy hx]
    split
    · exact .cons hx hrest
    · exact .cons hy ih

theorem mergedParameters_alongside (hp : p.Lawful) (h : s.Alongside p s') :
    p.Runs (List.Forall₂ (Located.Alongside p s s')) s.mergedParameters s'.mergedParameters := by
  have hpath : s'.pathLocation = s.pathLocation := by
    unfold pathLocation
    rw [h.path]
  unfold mergedParameters
  rw [hpath, h.location_eq]
  refine (locatedParameters_alongside hp h.above h.pathParameters).bind fun ofPath ofPath' hofPath => ?_
  refine (locatedParameters_alongside hp h.here h.parameters).bind
    fun ofOperation ofOperation' hofOperation => .pure ?_
  -- Parameters take the places of those before them that have the same key, which stays.
  have hmerge : ∀ ⦃merged merged'⦄, List.Forall₂ (Located.Alongside p s s') merged merged' →
      ∀ ⦃x x'⦄, x.Alongside p s s' x' →
        List.Forall₂ (Located.Alongside p s s') (mergeParameter merged x) (mergeParameter merged' x') :=
    fun _ _ hmerged _ _ hx => mergeParameter_alongside hmerged hx
  exact List.rel_foldl hmerge .nil (List.rel_append hofPath hofOperation)

theorem parameterNode_eq (s : Site) (x : Located) :
    s.parameterNode x =
      s.nodeOr (.ofType .unknown) (locate x.location ["schema"]) x.parameter.schema? := by
  unfold parameterNode nodeOr
  cases x.parameter.schema? <;> rfl

theorem parameterNode_alongside (hp : p.Lawful) {x x' : Located} (hx : x.Alongside p s s' x') :
    p.Runs Eq (s.parameterNode x) (s'.parameterNode x') := by
  rw [parameterNode_eq, parameterNode_eq]
  exact nodeOr_alongside _ hx.parameter.schema (hp.append _ _ _ hx.location)

theorem parameters_alongside (hp : p.Lawful) {merged merged' : List Located}
    (hmerged : List.Forall₂ (Located.Alongside p s s') merged merged') :
    p.Runs Eq (s.parameters merged) (s'.parameters merged') := by
  induction hmerged with
  | nil => exact .pure rfl
  | @cons x x' _ _ hx _ ih =>
    have hlocation : x.parameter.location = x'.parameter.location :=
      (congrArg Parameter.location hx.parameter.rest :)
    rw [Site.parameters, Site.parameters, hlocation]
    split
    · exact ih
    · refine (parameterNode_alongside hp hx).bind_eq fun n => ih.bind_eq fun more => .pure ?_
      rw [hx.parameter.eq]

/-! ## Bodies -/

theorem preferred_alongside (hp : p.Lawful) (hconfig : s'.config = s.config)
    {mediaTypes mediaTypes' : List String}
    (h : List.Forall₂ p.mediaType mediaTypes mediaTypes') :
    p.mediaType (s.preferred mediaTypes) (s'.preferred mediaTypes') := by
  have hrank : ∀ m m', p.mediaType m m' →
      s.config.mediaTypeRank? (id m) = s.config.mediaTypeRank? (id m') := hp.rank s.config
  have hpick := s.config.rel_pick? hrank h
  unfold preferred
  rw [hconfig]
  generalize s.config.pick? id mediaTypes = m at hpick ⊢
  generalize s.config.pick? id mediaTypes' = m' at hpick ⊢
  cases hpick with
  | none => exact hp.same _
  | some h => exact h

theorem preferredContent?_alongside (hp : p.Lawful) (hconfig : s'.config = s.config)
    {content content' : List (String × MediaType)}
    (h : List.Forall₂ (ContentAlongside p s s') content content') :
    Option.Rel (ContentAlongside p s s') (s.preferredContent? content)
      (s'.preferredContent? content') := by
  have hrank : ∀ e e', ContentAlongside p s s' e e' →
      s.config.mediaTypeRank? e.1 = s.config.mediaTypeRank? e'.1 :=
    fun e e' he => hp.rank s.config e.1 e'.1 he.mediaType
  unfold preferredContent?
  rw [hconfig]
  exact s.config.rel_pick? hrank h

theorem requestBody_alongside (hp : p.Lawful) (h : s.Alongside p s') {place place' : RefOr RequestBody}
    (hplace : p.Runs (BodyAlongside p s s') (s.document.valueAt RequestBody place)
      (s'.document.valueAt RequestBody place')) :
    p.Runs (Option.Rel (Model.Body.Alongside p.mediaType p.openForms)) (s.requestBody place)
      (s'.requestBody place') := by
  refine hplace.bind fun b b' hb => ?_
  have hcontent := preferredContent?_alongside hp h.config hb.content
  generalize s.preferredContent? b.content = found at hcontent ⊢
  generalize s'.preferredContent? b'.content = found' at hcontent ⊢
  cases hcontent with
  | none => exact .pure .none
  | @some e e' he =>
    obtain ⟨mediaType, m⟩ := e
    obtain ⟨mediaType', m'⟩ := e'
    obtain ⟨hmediaType, hschema⟩ := he
    dsimp only
    rw [h.location_eq, ← hb.description, ← hb.required]
    refine (nodeOr_alongside _ hschema ?_).bind_eq fun n =>
      .pure (.some ⟨rfl, rfl, .inr ⟨hmediaType, ?_⟩⟩)
    · exact hp.content _ _ ["requestBody", "content"] _ _ ["schema"] h.here hmediaType
    · exact hp.kind _ _ hmediaType

theorem bodyOfParameter_alongside (hp : p.Lawful) (h : s.Alongside p s') {x x' : Located}
    (hx : x.Alongside p s s' x') :
    p.Runs (Model.Body.Alongside p.mediaType p.openForms) (s.bodyOfParameter x)
      (s'.bodyOfParameter x') := by
  have hmediaType := preferred_alongside hp h.config h.consumes
  refine (parameterNode_alongside hp hx).bind_eq fun n => .pure ⟨?_, ?_, .inr ⟨hmediaType, ?_⟩⟩
  · rw [hx.parameter.eq]
  · rw [hx.parameter.eq]
  · exact hp.kind _ _ hmediaType

theorem bodyOfForm_alongside (hp : p.Lawful) (h : s.Alongside p s') {form form' : List Located}
    (htakes : s.TakesForm form) (htakes' : s'.TakesForm form')
    (hform : List.Forall₂ (Located.Alongside p s s') form form') :
    p.Runs (Model.Body.Alongside p.mediaType p.openForms) (s.bodyOfForm form) (s'.bodyOfForm form') := by
  have hrequired : (form.filter (·.parameter.required)).map (·.parameter.name) =
      (form'.filter (·.parameter.required)).map (·.parameter.name) := by
    refine map_eq_of_forall₂ (forall₂_filter hform fun x x' hx => ?_) fun x x' hx => ?_
    · rw [hx.parameter.eq]
    · rw [hx.parameter.eq]
  unfold bodyOfForm
  rw [hrequired]
  refine (Report.Alongside.traverse_eq (hform.imp fun x x' hx => ?_)).bind_eq fun properties =>
    .pure ⟨rfl, rfl, ?_⟩
  · refine (parameterNode_alongside hp hx).bind_eq fun n => .pure ?_
    rw [hx.parameter.eq]
  · refine (h.forms form form' htakes htakes' hform).imp_right fun hmultipart => ?_
    rw [hmultipart]
    exact ⟨hp.same _, rfl⟩

theorem body_alongside (hp : p.Lawful) (h : s.Alongside p s') {merged merged' : List Located}
    (hresult : s.mergedParameters.result = .ok merged)
    (hresult' : s'.mergedParameters.result = .ok merged')
    (hmerged : List.Forall₂ (Located.Alongside p s s') merged merged') :
    p.Runs (Option.Rel (Model.Body.Alongside p.mediaType p.openForms)) (s.body merged)
      (s'.body merged') := by
  have hkind : ∀ l : ParameterLocation, List.Forall₂ (Located.Alongside p s s')
      (merged.filter fun x => x.parameter.location == l)
      (merged'.filter fun x => x.parameter.location == l) := by
    intro l
    refine forall₂_filter hmerged fun x x' hx => ?_
    rw [hx.parameter.eq]
  have hlast := rel_getLast? (hkind .body)
  have hform := hkind .formData
  have hrequest := h.requestBody
  unfold body
  dsimp only
  generalize hbody : (merged.filter fun x => x.parameter.location == .body).getLast? = last at hlast ⊢
  generalize hbody' : (merged'.filter fun x => x.parameter.location == .body).getLast? = last'
    at hlast ⊢
  generalize hfields : (merged.filter fun x => x.parameter.location == .formData) = form at hform ⊢
  generalize hfields' : (merged'.filter fun x => x.parameter.location == .formData) = form' at hform ⊢
  generalize hplace : s.operation.requestBody = place at hrequest ⊢
  generalize hplace' : s'.operation.requestBody = place' at hrequest ⊢
  cases hrequest with
  | some hvalue => exact requestBody_alongside hp h hvalue
  | none =>
    -- In version 2, the body is the last parameter of that kind, or else the form.
    cases hlast with
    | some hx => exact (bodyOfParameter_alongside hp h hx).map fun _ _ hb => .some hb
    | none =>
      have htakes : s.TakesForm form :=
        ⟨hplace, merged, hresult, List.getLast?_eq_none_iff.1 hbody, hfields⟩
      have htakes' : s'.TakesForm form' :=
        ⟨hplace', merged', hresult', List.getLast?_eq_none_iff.1 hbody', hfields'⟩
      cases hform with
      | nil => exact .pure .none
      | cons hx hrest =>
        exact (bodyOfForm_alongside hp h htakes htakes' (.cons hx hrest)).map fun _ _ hb => .some hb

/-! ## Responses -/

/-- What responses send corresponds: the media types, the schemas, and where these lie. -/
structure SentAlongside (p : SitePairing) (s s' : Site)
    (c c' : Option String × Option (RefOr Schema) × String) : Prop where
  mediaType : Option.Rel p.mediaType c.1 c'.1
  schema : Option.Rel (SchemaRuns p s s') c.2.1 c'.2.1
  location : p.location c.2.2 c'.2.2

theorem responseContent_alongside (hp : p.Lawful) (h : s.Alongside p s') (hl : p.location l l')
    {r r' : Response} (hr : ResponseAlongside p s s' r r') :
    SentAlongside p s s' (s.responseContent l r) (s'.responseContent l' r') := by
  have hcontent := hr.content
  have hschema := hr.schema
  unfold responseContent
  generalize r.content = content at hcontent ⊢
  generalize r'.content = content' at hcontent ⊢
  cases hcontent with
  | none =>
    -- The schema lies right in the response, as in version 2.
    refine ⟨?_, hschema, hp.append _ _ _ hl⟩
    generalize r.schema = schema at hschema ⊢
    generalize r'.schema = schema' at hschema ⊢
    cases hschema with
    | none => exact .none
    | some _ => exact .some (preferred_alongside hp h.config h.produces)
  | @some content content' hcontent =>
    have hfound := preferredContent?_alongside hp h.config hcontent
    dsimp only
    generalize s.preferredContent? content = found at hfound ⊢
    generalize s'.preferredContent? content' = found' at hfound ⊢
    cases hfound with
    | none => exact ⟨.none, .none, hl⟩
    | some he =>
      exact ⟨.some he.mediaType, he.schema, hp.content _ _ ["content"] _ _ ["schema"] hl he.mediaType⟩

theorem response_alongside (hp : p.Lawful) (h : s.Alongside p s') (code : String)
    {place place' : RefOr Response}
    (hplace : p.Runs (ResponseAlongside p s s') (s.document.valueAt Response place)
      (s'.document.valueAt Response place')) :
    p.Runs (Model.Response.Alongside p.mediaType) (s.response code place) (s'.response code place') := by
  refine hplace.bind fun r r' hr => ?_
  have hl := hp.append _ _ (Pointer.text ⟨["responses", code]⟩) h.here
  have hsent := responseContent_alongside hp h hl hr
  rw [h.location_eq, ← hr.description]
  change SentAlongside p s s' (s.responseContent (locate s.location ["responses", code]) r)
    (s'.responseContent (locate s.location ["responses", code]) r') at hsent
  generalize s.responseContent _ r = c at hsent ⊢
  generalize s'.responseContent _ r' = c' at hsent ⊢
  obtain ⟨mediaType, schema, l⟩ := c
  obtain ⟨mediaType', schema', l'⟩ := c'
  obtain ⟨hmediaType, hschema, hl⟩ := hsent
  refine (nodeOr_alongside _ hschema hl).bind_eq fun n => .pure ⟨rfl, ?_⟩
  exact rel_imp (fun m m' hm => ⟨hm, hp.kind m m' hm⟩) hmediaType

theorem responses_alongside (hp : p.Lawful) (h : s.Alongside p s') :
    p.Runs (List.Forall₂ (Named (Model.Response.Alongside p.mediaType))) s.responses s'.responses := by
  refine Report.Alongside.traverse (h.responses.imp ?_)
  rintro ⟨code, place⟩ ⟨_, place'⟩ ⟨rfl, hplace⟩
  exact (response_alongside hp h code hplace).bind fun r r' hr => .pure ⟨rfl, hr⟩

/-! ## Security -/

theorem requiredScheme_alongside (h : s.Alongside p s') (hl : p.location l l') (name : String) :
    p.Runs Eq (s.requiredScheme l name) (s'.requiredScheme l' name) := by
  unfold requiredScheme
  rw [h.schemes]
  split
  · exact (Report.Alongside.record hl).bind fun _ _ _ => .pure rfl
  · split
    · exact .pure rfl
    · exact (Report.Alongside.record hl).bind fun _ _ _ => .pure rfl

theorem security_alongside (hp : p.Lawful) (h : s.Alongside p s') :
    p.Runs Eq s.security s'.security := by
  have hsecurity : s'.operation.security = s.operation.security :=
    (congrArg Operation.security h.operation :)
  have hrequirements : s'.requirements = s.requirements := by
    unfold requirements
    rw [hsecurity, h.security]
  have hlocation : s'.requirementsLocation = s.requirementsLocation := by
    unfold requirementsLocation
    rw [hsecurity, h.location_eq]
  have hself : p.location s.requirementsLocation s.requirementsLocation := by
    unfold requirementsLocation
    split
    · exact hp.append _ _ _ h.here
    · exact h.root
  rw [security_eq, security_eq, hrequirements, hlocation]
  refine (Report.Alongside.traverse_eq (List.forall₂_same.2 fun m hm => ?_)).map fun _ _ hs =>
    congrArg List.flatten hs
  obtain ⟨i, -, hm⟩ := exists_firstNamedAt hm
  rw [hm]
  exact requiredScheme_alongside h (hp.append _ _ _ hself) m.1

/-! ## Response maps -/

theorem fileAll_alongside (hp : p.Lawful) (hl : p.location l l)
    {responses responses' : List (String × Model.Response)}
    (h : List.Forall₂ (Named (Model.Response.Alongside p.mediaType)) responses responses')
    (sorted : Model.Sorted) :
    p.Runs Eq (Model.Sorted.fileAll l sorted responses) (Model.Sorted.fileAll l sorted responses') := by
  induction h generalizing sorted with
  | nil => exact .pure rfl
  | @cons e e' _ _ he _ ih =>
    obtain ⟨code, r⟩ := e
    obtain ⟨_, r'⟩ := e'
    obtain ⟨rfl, hr⟩ := he
    have hfile : p.Runs Eq (sorted.file l code r.schema) (sorted.file l code r.schema) := by
      unfold Model.Sorted.file
      split
      case h_7 =>
        have hcode := hp.append _ _ (Pointer.escape code) (hp.append _ _ "/" hl)
        exact (Report.Alongside.record hcode).bind fun _ _ _ => .pure rfl
      all_goals exact .pure rfl
    rw [Model.Sorted.fileAll, Model.Sorted.fileAll, ← show r.schema = r'.schema from hr.schema]
    exact hfile.bind_eq fun sorted => ih sorted

/-! ## Operations -/

/-- Operations that correspond are normalized alongside. -/
theorem normalize_alongside (hp : p.Lawful) (h : s.Alongside p s') (id : String) :
    p.Runs (Model.Operation.Alongside p.mediaType p.openForms) (s.normalize id) (s'.normalize id) := by
  refine (mergedParameters_alongside hp h).and_result.bind fun merged merged' hmerged => ?_
  obtain ⟨hmerged, hresult, hresult'⟩ := hmerged
  refine (parameters_alongside hp hmerged).bind_eq fun parameters => ?_
  refine (body_alongside hp h hresult hresult' hmerged).bind fun body body' hbody => ?_
  refine (responses_alongside hp h).bind fun responses responses' hresponses => ?_
  refine (security_alongside hp h).bind_eq fun security => ?_
  have hmap : p.Runs Eq
      (Model.responseMap s.config (locate s.location ["responses"]) responses)
      (Model.responseMap s'.config (locate s'.location ["responses"]) responses') := by
    rw [h.config, h.location_eq]
    exact (fileAll_alongside hp (hp.append _ _ _ h.here) hresponses {}).bind_eq fun _ => .pure rfl
  refine hmap.bind_eq fun responseMap => .pure ⟨?_, hbody, hresponses⟩
  have hsummary : s'.operation.summary = s.operation.summary :=
    (congrArg Operation.summary h.operation :)
  have hdescription : s'.operation.description = s.operation.description :=
    (congrArg Operation.description h.operation :)
  have hdeprecated : s'.operation.deprecated = s.operation.deprecated :=
    (congrArg Operation.deprecated h.operation :)
  have htags : s'.operation.tags = s.operation.tags := (congrArg Operation.tags h.operation :)
  rw [h.method, h.path, h.pathParams, h.summary, h.description, hsummary, hdescription, hdeprecated,
    htags]

theorem chooseId_alongside (hp : p.Lawful) (h : s.Alongside p s') (taken : TakenIds) :
    p.Runs Eq (s.chooseId taken) (s'.chooseId taken) := by
  unfold chooseId
  rw [h.rawId_eq, h.config, h.label_eq, h.location_eq]
  dsimp only
  split
  · exact .pure rfl
  · split
    · exact .fail (hp.duplicate _ _ _)
    · exact (Report.Alongside.record (hp.append _ _ _ h.here)).bind fun _ _ _ => .pure rfl

end Document.Site

end ApiShape
