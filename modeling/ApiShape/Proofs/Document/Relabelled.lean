import ApiShape.Proofs.Alongside.Pairing
import ApiShape.Proofs.Document.Chains
import ApiShape.Proofs.MediaType

/-!
# Documents under other media types

Two documents that differ in media types at most, each media type of one being like its counterpart in
the other. They have the same references, and a reference that comes upon the same entries wherever it
leads through what is sent resolves alike in both.
-/

namespace ApiShape

namespace Document

/-! ## What differs -/

/-- The same is sent under media types that are alike. -/
def ContentRelabelled : List (String × MediaType) → List (String × MediaType) → Prop :=
  List.Forall₂ fun e e' => MediaType.Alike e.1 e'.1 ∧ e.2 = e'.2

/-- The bodies differ at most in the media types that they are sent under, which are alike. -/
structure RequestBody.Relabelled (b b' : RequestBody) : Prop where
  rest : { b with content := [] } = { b' with content := [] }
  content : ContentRelabelled b.content b'.content

/-- The responses differ at most in the media types that they are sent under, which are alike. -/
structure Response.Relabelled (r r' : Response) : Prop where
  rest : { r with content := none } = { r' with content := none }
  content : Option.Rel ContentRelabelled r.content r'.content

/-- The operations differ in media types at most, which are alike. -/
structure Operation.Relabelled (o o' : Operation) : Prop where
  rest : { o with requestBody := none, responses := [], consumes := none, produces := none } =
    { o' with requestBody := none, responses := [], consumes := none, produces := none }
  requestBody : Option.Rel (RefOr.Alongside Eq RequestBody.Relabelled) o.requestBody o'.requestBody
  responses : List.Forall₂ (Named (RefOr.Alongside Eq Response.Relabelled)) o.responses o'.responses
  consumes : Option.Rel (List.Forall₂ MediaType.Alike) o.consumes o'.consumes
  produces : Option.Rel (List.Forall₂ MediaType.Alike) o.produces o'.produces

/-- The paths have the same methods, whose operations differ in media types at most, which are alike. -/
structure PathItem.Relabelled (p p' : PathItem) : Prop where
  summary : p.summary = p'.summary
  description : p.description = p'.description
  parameters : p.parameters = p'.parameters
  operation? : ∀ m, Option.Rel Operation.Relabelled (p.operation? m) (p'.operation? m)

/-- The components differ in media types at most, which are alike. -/
structure Components.Relabelled (c c' : Components) : Prop where
  rest : { c with responses := [], requestBodies := [] } =
    { c' with responses := [], requestBodies := [] }
  responses : List.Forall₂ (Named Response.Relabelled) c.responses c'.responses
  requestBodies : List.Forall₂ (Named RequestBody.Relabelled) c.requestBodies c'.requestBodies

/-- The documents differ in media types at most, which are alike. -/
structure Relabelled (d d' : Document) : Prop where
  rest : { d with paths := [], components := none, responses := [], consumes := [], produces := [] } =
    { d' with paths := [], components := none, responses := [], consumes := [], produces := [] }
  paths : List.Forall₂ (Named PathItem.Relabelled) d.paths d'.paths
  components : Option.Rel Components.Relabelled d.components d'.components
  responses : List.Forall₂ (Named Response.Relabelled) d.responses d'.responses
  consumes : List.Forall₂ MediaType.Alike d.consumes d'.consumes
  produces : List.Forall₂ MediaType.Alike d.produces d'.produces

theorem RequestBody.Relabelled.refl (b : RequestBody) : b.Relabelled b :=
  ⟨rfl, List.forall₂_same.2 fun e _ => ⟨.refl e.1, rfl⟩⟩

theorem Response.Relabelled.refl (r : Response) : r.Relabelled r :=
  ⟨rfl, rel_refl (fun _ => List.forall₂_same.2 fun e _ => ⟨.refl e.1, rfl⟩) _⟩

/-- The operations of paths correspond, one method after the other. -/
theorem PathItem.Relabelled.operations {p p' : PathItem} (h : p.Relabelled p') :
    List.Forall₂ (fun e e' => e.1 = e'.1 ∧ e.2.Relabelled e'.2) p.operations p'.operations := by
  unfold PathItem.operations
  refine List.rel_filterMap (R := Eq) ?_ (List.forall₂_same.2 fun _ _ => rfl)
  rintro m _ rfl
  have hoperation := h.operation? m
  dsimp only
  generalize p.operation? m = o at hoperation ⊢
  generalize p'.operation? m = o' at hoperation ⊢
  cases hoperation with
  | none => exact .none
  | some ho => exact .some ⟨rfl, ho⟩

/-! ## Places and references -/

theorem ContentRelabelled.places {content content' : List (String × MediaType)}
    (h : ContentRelabelled content content') : contentPlaces content = contentPlaces content' := by
  refine flatMap_eq_of_forall₂ h ?_
  rintro ⟨_, m⟩ ⟨_, _⟩ ⟨-, rfl⟩
  rfl

theorem Response.Relabelled.places {r r' : Response} (h : r.Relabelled r') : r.places = r'.places := by
  have hschema : r.schema = r'.schema := (congrArg Response.schema h.rest :)
  unfold Response.places
  rw [hschema, ContentRelabelled.places (forall₂_getD h.content)]

section

variable {α : Type} {S : α → α → Prop} {places places' : List (RefOr α)}

theorem filterMap_ref?_eq (h : List.Forall₂ (RefOr.Alongside Eq S) places places') :
    places.filterMap RefOr.ref? = places'.filterMap RefOr.ref? := by
  induction h with
  | nil => rfl
  | cons hplace _ ih =>
    cases hplace with
    | ref hr =>
      cases hr
      exact congrArg (_ :: ·) ih
    | inline _ => exact ih

theorem inlineValues_alongside (h : List.Forall₂ (RefOr.Alongside Eq S) places places') :
    List.Forall₂ S (inlineValues places) (inlineValues places') := by
  refine List.rel_filterMap ?_ h
  rintro place place' (_ | h)
  · exact .none
  · exact .some h

end

namespace Relabelled

variable {d d' : Document}

theorem parameterPlaces (h : d.Relabelled d') : d.parameterPlaces = d'.parameterPlaces := by
  refine flatMap_eq_of_forall₂ h.paths ?_
  rintro ⟨_, p⟩ ⟨_, p'⟩ ⟨-, hp⟩
  dsimp only
  rw [hp.parameters]
  refine congrArg _ (flatMap_eq_of_forall₂ hp.operations ?_)
  rintro ⟨_, o⟩ ⟨_, o'⟩ ⟨-, ho⟩
  exact (congrArg Operation.parameters ho.rest :)

theorem bodyPlaces (h : d.Relabelled d') :
    List.Forall₂ (RefOr.Alongside Eq RequestBody.Relabelled) d.bodyPlaces d'.bodyPlaces :=
  List.rel_flatMap h.paths fun _ _ he => List.rel_flatMap he.2.operations fun _ _ ho =>
    forall₂_toList ho.2.requestBody

theorem responsePlaces (h : d.Relabelled d') :
    List.Forall₂ (RefOr.Alongside Eq Response.Relabelled) d.responsePlaces d'.responsePlaces :=
  List.rel_flatMap h.paths fun _ _ he => List.rel_flatMap he.2.operations fun _ _ ho =>
    List.rel_map (fun _ _ hr => hr.2) ho.2.responses

/-- The components agree in what no media types are in. -/
theorem getD_components (h : d.Relabelled d') :
    (d.components.getD {}).Relabelled (d'.components.getD {}) := by
  have hcomponents := h.components
  generalize d.components = c at hcomponents ⊢
  generalize d'.components = c' at hcomponents ⊢
  cases hcomponents with
  | none => exact ⟨rfl, .nil, .nil⟩
  | some hc => exact hc

/-- The same schemas lie at the same places. -/
theorem schemaPlaces (h : d.Relabelled d') : d.schemaPlaces = d'.schemaPlaces := by
  have hc := h.getD_components
  have hdefinitions : d.definitions = d'.definitions := (congrArg Document.definitions h.rest :)
  have hparameters : d.parameters = d'.parameters := (congrArg Document.parameters h.rest :)
  have hschemas : (d.components.getD {}).schemas = (d'.components.getD {}).schemas :=
    (congrArg Components.schemas hc.rest :)
  have hshared : (d.components.getD {}).parameters = (d'.components.getD {}).parameters :=
    (congrArg Components.parameters hc.rest :)
  have hbodies := List.rel_append (List.rel_map (fun _ _ hb => hb.2) hc.requestBodies)
    (inlineValues_alongside h.bodyPlaces)
  have hresponses := List.rel_append
    (List.rel_append (List.rel_map (fun _ _ hr => hr.2) hc.responses)
      (List.rel_map (fun _ _ hr => hr.2) h.responses))
    (inlineValues_alongside h.responsePlaces)
  unfold Document.schemaPlaces
  dsimp only
  rw [hdefinitions, hparameters, hschemas, hshared, h.parameterPlaces,
    flatMap_eq_of_forall₂ hbodies fun _ _ hb => hb.content.places,
    flatMap_eq_of_forall₂ hresponses fun _ _ hr => hr.places]

theorem nestedSchemas (h : d.Relabelled d') : d.nestedSchemas = d'.nestedSchemas := by
  unfold Document.nestedSchemas
  rw [h.schemaPlaces]

/-- The references are the same. -/
theorem references (h : d.Relabelled d') : d.references = d'.references := by
  unfold Document.references
  rw [h.parameterPlaces, filterMap_ref?_eq h.bodyPlaces, filterMap_ref?_eq h.responsePlaces,
    h.schemaPlaces]

end Relabelled

end Document

/-! ## What pointers lead to -/

namespace Target

open Document

/-- The parts differ in media types at most, which are alike. -/
inductive Relabelled : Target → Target → Prop
  | refl (t) : Relabelled t t
  | document {d d'} (h : d.Relabelled d') : Relabelled (.document d) (.document d')
  | components {c c'} (h : c.Relabelled c') : Relabelled (.components c) (.components c')
  | pathItem {p p'} (h : p.Relabelled p') : Relabelled (.pathItem p) (.pathItem p')
  | operation {o o'} (h : o.Relabelled o') : Relabelled (.operation o) (.operation o')
  | requestBody {b b'} (h : b.Relabelled b') : Relabelled (.requestBody b) (.requestBody b')
  | response {r r'} (h : r.Relabelled r') : Relabelled (.response r) (.response r')
  | pathItems {named named'} (h : List.Forall₂ (Named PathItem.Relabelled) named named') :
    Relabelled (.pathItems named) (.pathItems named')
  | responses {named named'} (h : List.Forall₂ (Named Response.Relabelled) named named') :
    Relabelled (.responses named) (.responses named')
  | operationResponses {named named'}
    (h : List.Forall₂ (Named (RefOr.Alongside Eq Response.Relabelled)) named named') :
    Relabelled (.operationResponses named) (.operationResponses named')
  | requestBodies {named named'} (h : List.Forall₂ (Named RequestBody.Relabelled) named named') :
    Relabelled (.requestBodies named) (.requestBodies named')
  | content {named named'} (h : ContentRelabelled named named') :
    Relabelled (.content named) (.content named')

/-- If both parts are what is sent, the key is that of the same entry in both, or of none. -/
def sameEntry (key : String) : Target → Target → Bool
  | .content named, .content named' =>
    (Dict.keys named).idxOf? key == (Dict.keys named').idxOf? key
  | _, _ => true

/-- Wherever the segments lead through what is sent, they go on to the same entry in both parts, or in
none. -/
def sameEntriesAlong (t t' : Target) : List String → Bool
  | [] => true
  | segment :: rest =>
    sameEntry segment t t' &&
      match Pointer.step t segment rest, Pointer.step t' segment rest with
      | .ok u, .ok u' => sameEntriesAlong u u' rest
      | _, _ => true

variable {t t' : Target} {segment : String} {rest : List String}

theorem relabelled_ofOption {α : Type} {S : α → α → Prop} {part : α → Target} {a a' : Option α}
    (h : Option.Rel S a a') (hpart : ∀ a a', S a a' → (part a).Relabelled (part a')) :
    (ofOption part a).Relabelled (ofOption part a') := by
  cases h with
  | none => exact .refl _
  | some h => exact hpart _ _ h

theorem relabelled_atPlace {α : Type} {S : α → α → Prop} (kind : ComponentKind) {part : α → Target}
    {place place' : RefOr α} (h : place.Alongside Eq S place')
    (hpart : ∀ a a', S a a' → (part a).Relabelled (part a')) :
    (atPlace kind part place).Relabelled (atPlace kind part place') := by
  cases h with
  | ref hr => exact hr ▸ .refl _
  | inline h => exact hpart _ _ h

theorem relabelled_entries {α : Type} {S : α → α → Prop} {part : α → Target}
    {named named' : List (String × α)} (h : List.Forall₂ (Named S) named named')
    (hpart : ∀ a a', S a a' → (part a).Relabelled (part a')) :
    List.Forall₂ (Named Relabelled) (entries part named) (entries part named') :=
  List.rel_map (fun _ _ he => ⟨he.1, hpart _ _ he.2⟩) h

theorem relabelled_of_eq (h : t = t') : t.Relabelled t' :=
  h ▸ .refl t

/-- Parts that show entries of the same names go on to parts that correspond. -/
theorem rel_step {entries entries' : Dict Target} (ht : t.view = .keyed entries)
    (ht' : t'.view = .keyed entries') (h : List.Forall₂ (Named Relabelled) entries entries')
    (segment : String) (rest : List String) :
    Both (fun _ _ => True) Relabelled (Pointer.step t segment rest)
      (Pointer.step t' segment rest) := by
  have hview : Pointee.view t = .keyed entries := ht
  have hview' : Pointee.view t' = .keyed entries' := ht'
  have hget := rel_get? h segment
  unfold Pointer.step
  rw [hview, hview']
  dsimp only
  generalize entries.get? segment = found at hget ⊢
  generalize entries'.get? segment = found' at hget ⊢
  cases hget with
  | none => exact .error trivial
  | some h => exact .ok h

/-- Of what is sent, a key gives the same if it is that of the same entry. -/
theorem get?_eq_of_idxOf? {named named' : List (String × Document.MediaType)}
    (h : ContentRelabelled named named') {key : String}
    (hkey : (Dict.keys named).idxOf? key = (Dict.keys named').idxOf? key) :
    Dict.get? named key = Dict.get? named' key := by
  induction h with
  | nil => rfl
  | @cons e e' _ _ he _ ih =>
    have hsucc : Function.Injective (Option.map (· + 1) : Option Nat → Option Nat) :=
      Option.map_injective (add_left_injective 1)
    simp only [Dict.keys, List.map_cons, List.idxOf?_cons, beq_iff_eq] at hkey
    rw [Dict.get?, Dict.get?]
    -- Either both positions are the first, or both are one more than in the rest.
    by_cases hfirst : e.1 = key
    · rw [if_pos hfirst] at hkey ⊢
      by_cases hfirst' : e'.1 = key
      · rw [if_pos hfirst', he.2]
      · rw [if_neg hfirst'] at hkey
        simp at hkey
    · rw [if_neg hfirst] at hkey ⊢
      by_cases hfirst' : e'.1 = key
      · rw [if_pos hfirst'] at hkey
        simp at hkey
      · rw [if_neg hfirst'] at hkey ⊢
        exact ih (hsucc hkey)

theorem step_document {d d' : Document} (h : d.Relabelled d') (segment : String)
    (rest : List String) : Both (fun _ _ => True) Relabelled
      (Pointer.step (document d) segment rest) (Pointer.step (document d') segment rest) := by
  have hcomponents := relabelled_ofOption h.components fun _ _ hc => .components hc
  have hdefinitions : schemas d.definitions = schemas d'.definitions :=
    congrArg schemas (congrArg Document.definitions h.rest :)
  have hparameters : parameters d.parameters = parameters d'.parameters :=
    congrArg parameters (congrArg Document.parameters h.rest :)
  have hschemes : securitySchemes d.securityDefinitions = securitySchemes d'.securityDefinitions :=
    congrArg securitySchemes (congrArg Document.securityDefinitions h.rest :)
  refine rel_step rfl rfl ?_ segment rest
  exact .cons ⟨rfl, .pathItems h.paths⟩ (.cons ⟨rfl, hcomponents⟩
    (.cons ⟨rfl, relabelled_of_eq hdefinitions⟩ (.cons ⟨rfl, relabelled_of_eq hparameters⟩
      (.cons ⟨rfl, .responses h.responses⟩ (.cons ⟨rfl, relabelled_of_eq hschemes⟩ .nil)))))

theorem step_components {c c' : Components} (h : c.Relabelled c') (segment : String)
    (rest : List String) : Both (fun _ _ => True) Relabelled
      (Pointer.step (components c) segment rest) (Pointer.step (components c') segment rest) := by
  have hschemas : schemas c.schemas = schemas c'.schemas :=
    congrArg schemas (congrArg Components.schemas h.rest :)
  have hparameters : parameters c.parameters = parameters c'.parameters :=
    congrArg parameters (congrArg Components.parameters h.rest :)
  have hschemes : securitySchemes c.securitySchemes = securitySchemes c'.securitySchemes :=
    congrArg securitySchemes (congrArg Components.securitySchemes h.rest :)
  refine rel_step rfl rfl ?_ segment rest
  exact .cons ⟨rfl, relabelled_of_eq hschemas⟩ (.cons ⟨rfl, .responses h.responses⟩
    (.cons ⟨rfl, relabelled_of_eq hparameters⟩ (.cons ⟨rfl, .requestBodies h.requestBodies⟩
      (.cons ⟨rfl, relabelled_of_eq hschemes⟩ .nil))))

theorem step_pathItem {p p' : PathItem} (h : p.Relabelled p') (segment : String)
    (rest : List String) : Both (fun _ _ => True) Relabelled
      (Pointer.step (pathItem p) segment rest) (Pointer.step (pathItem p') segment rest) := by
  have hmethod : ∀ m, (ofOption operation (p.operation? m)).Relabelled
      (ofOption operation (p'.operation? m)) :=
    fun m => relabelled_ofOption (h.operation? m) fun _ _ ho => .operation ho
  refine rel_step rfl rfl ?_ segment rest
  exact .cons ⟨rfl, hmethod .get⟩ (.cons ⟨rfl, hmethod .put⟩ (.cons ⟨rfl, hmethod .post⟩
    (.cons ⟨rfl, hmethod .delete⟩ (.cons ⟨rfl, hmethod .options⟩ (.cons ⟨rfl, hmethod .head⟩
      (.cons ⟨rfl, hmethod .patch⟩ (.cons ⟨rfl, hmethod .trace⟩
        (.cons ⟨rfl, relabelled_of_eq (congrArg parameterList h.parameters)⟩ .nil))))))))

theorem step_operation {o o' : Operation} (h : o.Relabelled o') (segment : String)
    (rest : List String) : Both (fun _ _ => True) Relabelled
      (Pointer.step (operation o) segment rest) (Pointer.step (operation o') segment rest) := by
  have hparameters : parameterList o.parameters = parameterList o'.parameters :=
    congrArg parameterList (congrArg Operation.parameters h.rest :)
  have hbody := relabelled_ofOption h.requestBody fun _ _ hplace =>
    relabelled_atPlace .requestBody hplace fun _ _ hb => .requestBody hb
  refine rel_step rfl rfl ?_ segment rest
  exact .cons ⟨rfl, relabelled_of_eq hparameters⟩ (.cons ⟨rfl, hbody⟩
    (.cons ⟨rfl, .operationResponses h.responses⟩ .nil))

theorem step_response {r r' : Response} (h : r.Relabelled r') (segment : String)
    (rest : List String) : Both (fun _ _ => True) Relabelled
      (Pointer.step (response r) segment rest) (Pointer.step (response r') segment rest) := by
  have hcontent := relabelled_ofOption h.content fun _ _ hc => .content hc
  have hschema : ofOption atSchema r.schema = ofOption atSchema r'.schema :=
    congrArg (ofOption atSchema) (congrArg Response.schema h.rest :)
  refine rel_step rfl rfl ?_ segment rest
  exact .cons ⟨rfl, hcontent⟩ (.cons ⟨rfl, relabelled_of_eq hschema⟩ .nil)

/-- The entries under a key are the same if they stand at the same position. -/
theorem step_content {named named' : List (String × Document.MediaType)}
    (h : ContentRelabelled named named')
    (hkey : (Dict.keys named).idxOf? segment = (Dict.keys named').idxOf? segment)
    (rest : List String) : Both (fun _ _ => True) Relabelled
      (Pointer.step (content named) segment rest) (Pointer.step (content named') segment rest) := by
  have hview : ∀ named, Pointee.view (content named) = .keyed (entries mediaType named) := fun _ => rfl
  unfold Pointer.step
  rw [hview, hview]
  dsimp only
  rw [get?_entries, get?_entries, get?_eq_of_idxOf? h hkey]
  cases Dict.get? named' segment with
  | none => exact .error trivial
  | some m => exact .ok (.refl _)

/-- Corresponding parts go on to corresponding parts, or neither goes on. -/
theorem step_relabelled (h : t.Relabelled t') (hkey : sameEntry segment t t' = true)
    (rest : List String) : Both (fun _ _ => True) Relabelled (Pointer.step t segment rest)
      (Pointer.step t' segment rest) := by
  cases h with
  | refl t => exact Both.refl (fun _ => trivial) Relabelled.refl _
  | document h => exact step_document h segment rest
  | components h => exact step_components h segment rest
  | pathItem h => exact step_pathItem h segment rest
  | operation h => exact step_operation h segment rest
  | requestBody h =>
    refine rel_step rfl rfl ?_ segment rest
    exact .cons ⟨rfl, .content h.content⟩ .nil
  | response h => exact step_response h segment rest
  | pathItems h => exact rel_step rfl rfl (relabelled_entries h fun _ _ => .pathItem) segment rest
  | responses h => exact rel_step rfl rfl (relabelled_entries h fun _ _ => .response) segment rest
  | operationResponses h =>
    exact rel_step rfl rfl (relabelled_entries h fun _ _ hplace =>
      relabelled_atPlace _ hplace fun _ _ => .response) segment rest
  | requestBodies h =>
    exact rel_step rfl rfl (relabelled_entries h fun _ _ => .requestBody) segment rest
  | content h => exact step_content h (beq_iff_eq.1 hkey) rest

/-- From corresponding parts, segments lead to corresponding parts, or nowhere. -/
theorem follow_relabelled {segments : List String} (h : t.Relabelled t')
    (hkeys : t.sameEntriesAlong t' segments = true) :
    Both (fun _ _ => True) Relabelled (Pointer.follow t segments) (Pointer.follow t' segments) := by
  induction segments generalizing t t' with
  | nil => exact .ok h
  | cons segment rest ih =>
    rw [sameEntriesAlong, Bool.and_eq_true] at hkeys
    obtain ⟨hkey, hkeys⟩ := hkeys
    have hstep := step_relabelled h hkey rest
    rw [Pointer.follow, Pointer.follow]
    generalize Pointer.step t segment rest = next at hstep hkeys ⊢
    generalize Pointer.step t' segment rest = next' at hstep hkeys ⊢
    cases hstep with
    | ok hnext => exact ih hnext hkeys
    | error _ => exact .error trivial

end Target

/-! ## Following references -/

namespace ComponentKind

open Document

/-- The values differ in media types at most, which are alike. -/
def Relabelled : (k : ComponentKind) → k.Value → k.Value → Prop
  | .schema => Eq
  | .parameter => Eq
  | .requestBody => RequestBody.Relabelled
  | .response => Response.Relabelled

theorem Relabelled.refl {k : ComponentKind} (v : k.Value) : k.Relabelled v v := by
  cases k with
  | schema => rfl
  | parameter => rfl
  | requestBody => exact RequestBody.Relabelled.refl v
  | response => exact Response.Relabelled.refl v

end ComponentKind

namespace Document

/-- Wherever the reference leads through what is sent, it goes on to the same entry in both documents,
or to none. -/
def sameEntriesAt (d d' : Document) (r : Ref) : Bool :=
  match r.pointer with
  | .ok p => (Target.document d).sameEntriesAlong (.document d') p.segments
  | .error _ => true

/-- The documents differ in media types at most, which are alike, and no reference is affected by it. -/
structure Relabels (d d' : Document) : Prop extends d.Relabelled d' where
  entries : ∀ r ∈ d.references, d.sameEntriesAt d' r = true

namespace Relabels

variable {d d' : Document} {r : Ref} {k : ComponentKind}

theorem target (h : d.Relabels d') (hr : r ∈ d.references) :
    Both (fun _ _ => True) Target.Relabelled (d.target r) (d'.target r) := by
  have hentries := h.entries r hr
  unfold sameEntriesAt at hentries
  unfold Document.target
  cases hp : r.pointer with
  | error e => exact .error trivial
  | ok p =>
    rw [hp] at hentries
    have hfollow := Target.follow_relabelled (.document h.toRelabelled) hentries
    dsimp only
    unfold Pointer.resolve
    generalize Pointer.follow (Target.document d) p.segments = t at hfollow ⊢
    generalize Pointer.follow (Target.document d') p.segments = t' at hfollow ⊢
    cases hfollow with
    | ok ht => exact .ok ht
    | error _ => exact .error trivial

/-- A reference of the documents leads to corresponding values, or to the same reference, or nowhere. -/
theorem stepFrom (h : d.Relabels d') (hr : r ∈ d.references) (k : ComponentKind) :
    Both (fun _ _ => True) (RefOr.Alongside Eq k.Relabelled) (stepFrom k.Value d r)
      (stepFrom k.Value d' r) := by
  have htarget := h.target hr
  unfold Document.stepFrom
  generalize d.target r = t at htarget ⊢
  generalize d'.target r = t' at htarget ⊢
  cases htarget with
  | error _ => exact .error trivial
  | ok ht =>
    dsimp only
    -- Parts that are not the same are no references, so that only values of a kind go on.
    cases ht with
    | refl t =>
      refine Both.refl (fun _ => trivial) (fun place => ?_) _
      cases place with
      | ref q => exact .ref rfl
      | inline v => exact .inline (.refl v)
    | requestBody hb =>
      cases k with
      | requestBody => exact .ok (.inline hb)
      | _ => exact .error trivial
    | response hr =>
      cases k with
      | response => exact .ok (.inline hr)
      | _ => exact .error trivial
    | _ => cases k <;> exact .error trivial

/-- A reference of the documents resolves to corresponding values, or to none. -/
theorem resolve (h : d.Relabels d') (hr : r ∈ d.references) :
    Both (fun _ _ => True) k.Relabelled (d.resolve k.Value r) (d'.resolve k.Value r) := by
  -- From references of the documents, the chains go on to references of the documents.
  have hstep : ∀ q q', (q = q' ∧ q ∈ d.references) →
      Both (fun _ _ => True) (RefOr.Alongside (fun q q' => q = q' ∧ q ∈ d.references) k.Relabelled)
        (Document.stepFrom k.Value d q) (Document.stepFrom k.Value d' q') := by
    rintro q _ ⟨rfl, hq⟩
    have hstep := h.stepFrom hq k
    have hnext : ∀ next, Document.stepFrom k.Value d q = .ok (.ref next) → next ∈ d.references :=
      fun _ hnext => (continues_of_stepFrom hnext).mem_references
    generalize Document.stepFrom k.Value d q = first at hstep hnext ⊢
    generalize Document.stepFrom k.Value d' q = first' at hstep ⊢
    cases hstep with
    | error _ => exact .error trivial
    | ok hplace =>
      cases hplace with
      | ref hsame => exact .ok (.ref ⟨hsame, hnext _ rfl⟩)
      | inline hv => exact .ok (.inline hv)
  unfold Document.resolve
  rw [← h.references]
  refine followFrom_alongside hstep (fun _ _ _ => trivial) ?_ ?_ ⟨rfl, hr⟩
  · rintro q _ next _ ⟨rfl, -⟩ ⟨rfl, -⟩
    exact Iff.rfl
  · rintro q _ ⟨rfl, -⟩
    exact Iff.rfl

/-- The values at corresponding places correspond, or the same reference cannot be resolved. -/
theorem valueAt (h : d.Relabels d') {L : String → String → Prop} {place place' : RefOr k.Value}
    (hplace : place.Alongside Eq k.Relabelled place') (hrefs : ∀ r ∈ place.ref?, r ∈ d.references) :
    (d.valueAt k.Value place).Alongside L (fun e e' => e.message = e'.message) k.Relabelled
      (d'.valueAt k.Value place') := by
  cases hplace with
  | inline hv => exact .pure hv
  | @ref r _ hr =>
    cases hr
    have hresolve := h.resolve (k := k) (hrefs r rfl)
    refine .ofExcept ?_
    generalize d.resolve k.Value r = found at hresolve ⊢
    generalize d'.resolve k.Value r = found' at hresolve ⊢
    cases hresolve with
    | ok hv => exact .ok hv
    | error _ => exact .error rfl

end Relabels

/-- The value at a place has places of the document only. -/
theorem hasPlace_of_valueAt {d : Document} {k : ComponentKind} {place : RefOr k.Value} {v : k.Value}
    (h : (d.valueAt k.Value place).result = .ok v)
    (hplace : ∀ v ∈ place.inline?, ∀ part ∈ (k.part v).places, d.HasPlace part) :
    ∀ part ∈ (k.part v).places, d.HasPlace part := by
  cases place with
  | inline w =>
    cases h
    exact hplace _ rfl
  | ref r =>
    have hresolve : d.resolve k.Value r = .ok v := by
      change (d.resolve k.Value r).mapError _ = .ok v at h
      cases hfound : d.resolve k.Value r with
      | error e =>
        rw [hfound] at h
        cases h
      | ok w =>
        rw [hfound] at h
        cases h
        rfl
    -- The value stands where the last reference of the chain points.
    obtain ⟨q, t, ht, hv⟩ := exists_target_of_resolve hresolve
    rw [← ComponentKind.ofTarget?_eq_some_iff.1 hv]
    exact hasPlace_of_target ht

end Document

end ApiShape
