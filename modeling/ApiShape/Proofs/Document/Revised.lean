import ApiShape.Normalize.Schema
import ApiShape.Proofs.Document.Places
import ApiShape.Proofs.Document.SchemaNames

/-!
# Revised documents

A revision replaces references to schemas and changes what schemas say about themselves, but not which
schemas there are and where they stand. So a pointer leads to the revision of what it led to, and a
reference that stays as it is goes one step to the revision of what it went to.
-/

namespace ApiShape

/-- What to make of references to schemas, and of a schema apart from what is at its places. -/
structure Revision where
  ref : Ref → Ref
  own : Schema → Schema
  properties : ∀ s, (own s).properties = s.properties
  additional : ∀ s, (own s).additional = s.additional
  items : ∀ s, (own s).items = s.items
  enum : ∀ s, (own s).enum = s.enum
  allOf : ∀ s, (own s).allOf = s.allOf
  anyOf : ∀ s, (own s).anyOf = s.anyOf
  oneOf : ∀ s, (own s).oneOf = s.oneOf

/-- The reference where a part of some kind is expected, revised. -/
def Revision.refOf (v : Revision) : ComponentKind → Ref → Ref
  | .schema => v.ref
  | .parameter | .requestBody | .response => id

/-- The same on every entry, under the same name. -/
def onEntry {α : Type} (f : α → α) (e : String × α) : String × α :=
  (e.1, f e.2)

/-- What is said about additional properties, with the same on the schema. -/
def onAdditional {α : Type} (f : α → α) : Additional α → Additional α
  | .flag b => .flag b
  | .schema a => .schema (f a)

/-- What stands at a place, with one thing done to references and another to values. -/
def RefOr.onBoth {α : Type} (g : Ref → Ref) (f : α → α) : RefOr α → RefOr α
  | .ref r => .ref (g r)
  | .inline a => .inline (f a)

variable {v : Revision}

/-! ## Schemas -/

namespace Schema

mutual

/-- The schema with everything at its places revised, and then itself. -/
def revised (v : Revision) : Schema → Schema
  | ⟨types, format, title, description, deprecated, nullable, default, minimum, maximum,
      exclusiveMinimum, exclusiveMaximum, minLength, maxLength, pattern, minItems, maxItems,
      readOnly, writeOnly, properties, required, additional, items, enum, const, allOf, anyOf,
      oneOf, discriminator, extensions⟩ =>
    v.own ⟨types, format, title, description, deprecated, nullable, default, minimum, maximum,
      exclusiveMinimum, exclusiveMaximum, minLength, maxLength, pattern, minItems, maxItems,
      readOnly, writeOnly, revisedNamed? v properties, required, revisedAdditional v additional,
      revisedPlace? v items, enum, const, revisedPlaces? v allOf, revisedPlaces? v anyOf,
      revisedPlaces? v oneOf, discriminator, extensions⟩

/-- What is at a place, revised. -/
def revisedPlace (v : Revision) : RefOr Schema → RefOr Schema
  | .ref r => .ref (v.ref r)
  | .inline s => .inline (revised v s)

/-- What is at some places, revised. -/
def revisedPlaces (v : Revision) : List (RefOr Schema) → List (RefOr Schema)
  | [] => []
  | place :: rest => revisedPlace v place :: revisedPlaces v rest

/-- What is at named places, revised. -/
def revisedNamed (v : Revision) : List (String × RefOr Schema) → List (String × RefOr Schema)
  | [] => []
  | (name, place) :: rest => (name, revisedPlace v place) :: revisedNamed v rest

/-- What is at a place that need not be there, revised. -/
def revisedPlace? (v : Revision) : Option (RefOr Schema) → Option (RefOr Schema)
  | none => none
  | some place => some (revisedPlace v place)

/-- What is at some places that need not be there, revised. -/
def revisedPlaces? (v : Revision) : Option (List (RefOr Schema)) → Option (List (RefOr Schema))
  | none => none
  | some places => some (revisedPlaces v places)

/-- What is at named places that need not be there, revised. -/
def revisedNamed? (v : Revision) :
    Option (List (String × RefOr Schema)) → Option (List (String × RefOr Schema))
  | none => none
  | some named => some (revisedNamed v named)

/-- What is said about additional properties, revised. -/
def revisedAdditional (v : Revision) :
    Option (Additional (RefOr Schema)) → Option (Additional (RefOr Schema))
  | none => none
  | some (.flag b) => some (.flag b)
  | some (.schema place) => some (.schema (revisedPlace v place))

end

theorem revisedPlaces_eq (places : List (RefOr Schema)) :
    revisedPlaces v places = places.map (revisedPlace v) := by
  induction places with
  | nil => rfl
  | cons place rest ih => rw [revisedPlaces, ih, List.map_cons]

theorem revisedNamed_eq (named : List (String × RefOr Schema)) :
    revisedNamed v named = named.map (onEntry (revisedPlace v)) := by
  induction named with
  | nil => rfl
  | cons e rest ih =>
    rw [revisedNamed, ih, List.map_cons]
    rfl

theorem revised_eq (s : Schema) :
    s.revised v = v.own { s with
      properties := s.properties.map (List.map (onEntry (revisedPlace v)))
      additional := s.additional.map (onAdditional (revisedPlace v))
      items := s.items.map (revisedPlace v)
      allOf := s.allOf.map (List.map (revisedPlace v))
      anyOf := s.anyOf.map (List.map (revisedPlace v))
      oneOf := s.oneOf.map (List.map (revisedPlace v)) } := by
  have hplaces : ∀ places, revisedPlaces? v places = places.map (List.map (revisedPlace v)) := by
    intro places
    cases places with
    | none => rfl
    | some places => exact congrArg some (revisedPlaces_eq places)
  have hnamed : ∀ named,
      revisedNamed? v named = named.map (List.map (onEntry (revisedPlace v))) := by
    intro named
    cases named with
    | none => rfl
    | some named => exact congrArg some (revisedNamed_eq named)
  have hplace : ∀ place, revisedPlace? v place = place.map (revisedPlace v) := by
    intro place
    cases place <;> rfl
  have hadditional : ∀ additional,
      revisedAdditional v additional = additional.map (onAdditional (revisedPlace v)) := by
    intro additional
    rcases additional with _ | _ | _ <;> rfl
  cases s
  rw [revised, hnamed, hadditional, hplace, hplaces, hplaces, hplaces]

section

variable (v : Revision) (s : Schema)

theorem properties_revised :
    (s.revised v).properties = s.properties.map (List.map (onEntry (revisedPlace v))) := by
  rw [revised_eq, v.properties]

theorem additional_revised :
    (s.revised v).additional = s.additional.map (onAdditional (revisedPlace v)) := by
  rw [revised_eq, v.additional]

theorem items_revised : (s.revised v).items = s.items.map (revisedPlace v) := by
  rw [revised_eq, v.items]

theorem enum_revised : (s.revised v).enum = s.enum := by
  rw [revised_eq, v.enum]

theorem allOf_revised : (s.revised v).allOf = s.allOf.map (List.map (revisedPlace v)) := by
  rw [revised_eq, v.allOf]

theorem anyOf_revised : (s.revised v).anyOf = s.anyOf.map (List.map (revisedPlace v)) := by
  rw [revised_eq, v.anyOf]

theorem oneOf_revised : (s.revised v).oneOf = s.oneOf.map (List.map (revisedPlace v)) := by
  rw [revised_eq, v.oneOf]

/-- The same places are there. -/
theorem parts_revised : (s.revised v).parts = s.parts.map (revisedPlace v) := by
  unfold parts
  rw [properties_revised, additional_revised, items_revised, allOf_revised, anyOf_revised,
    oneOf_revised]
  have hnamed : ((s.properties.map (List.map (onEntry (revisedPlace v)))).getD []).map (·.2) =
      ((s.properties.getD []).map (·.2)).map (revisedPlace v) := by
    cases s.properties with
    | none => rfl
    | some named =>
      show (named.map (onEntry (revisedPlace v))).map (·.2) = (named.map (·.2)).map (revisedPlace v)
      rw [List.map_map, List.map_map]
      rfl
  have hplaces : ∀ places : Option (List (RefOr Schema)),
      (places.map (List.map (revisedPlace v))).getD [] = (places.getD []).map (revisedPlace v) := by
    intro places
    cases places <;> rfl
  rw [hnamed, hplaces, hplaces, hplaces]
  simp only [List.map_append]
  congr 4
  · rcases s.additional with _ | _ | _ <;> rfl
  · cases s.items <;> rfl

end

/-- The same schemas are nested in what is at a place. -/
theorem nestedPlace_revised (v : Revision) (place : RefOr Schema) :
    nestedPlace (revisedPlace v place) = (nestedPlace place).map (revised v) := by
  match place with
  | .ref r => rfl
  | .inline s =>
    have hparts : ∀ part ∈ s.parts,
        nestedPlace (revisedPlace v part) = (nestedPlace part).map (revised v) := by
      intro part hpart
      have hsize := sizeOf_lt_of_mem_parts hpart
      exact nestedPlace_revised v part
    rw [revisedPlace, nestedPlace, nestedPlace, nested_eq, nested_eq, parts_revised, List.map_cons,
      List.flatMap_map, List.map_flatMap]
    exact congrArg _ (List.flatMap_congr hparts)
termination_by sizeOf place
decreasing_by
  rw [RefOr.inline.sizeOf_spec]
  omega

end Schema

/-! ## The rest of a document -/

namespace Document

/-- The parameter with its schemas revised. -/
def Parameter.revised (v : Revision) (p : Parameter) : Parameter :=
  { p with
    schema := p.schema.map (Schema.revisedPlace v)
    items := p.items.map (Schema.revisedPlace v) }

/-- What is sent, with its schema revised. -/
def MediaType.revised (v : Revision) (m : MediaType) : MediaType :=
  { schema := m.schema.map (Schema.revisedPlace v) }

/-- The body with its schemas revised. -/
def RequestBody.revised (v : Revision) (b : RequestBody) : RequestBody :=
  { b with content := b.content.map (onEntry (MediaType.revised v)) }

/-- The response with its schemas revised. -/
def Response.revised (v : Revision) (r : Response) : Response :=
  { r with
    content := r.content.map (List.map (onEntry (MediaType.revised v)))
    schema := r.schema.map (Schema.revisedPlace v) }

/-- The operation with the schemas in it revised. -/
def Operation.revised (v : Revision) (o : Operation) : Operation :=
  { o with
    parameters := o.parameters.map (RefOr.onBoth id (Parameter.revised v))
    requestBody := o.requestBody.map (RefOr.onBoth id (RequestBody.revised v))
    responses := o.responses.map (onEntry (RefOr.onBoth id (Response.revised v))) }

/-- The path with the schemas in it revised. -/
def PathItem.revised (v : Revision) (item : PathItem) : PathItem :=
  { item with
    get := item.get.map (Operation.revised v)
    put := item.put.map (Operation.revised v)
    post := item.post.map (Operation.revised v)
    delete := item.delete.map (Operation.revised v)
    options := item.options.map (Operation.revised v)
    head := item.head.map (Operation.revised v)
    patch := item.patch.map (Operation.revised v)
    trace := item.trace.map (Operation.revised v)
    parameters := item.parameters.map (RefOr.onBoth id (Parameter.revised v)) }

/-- The components with their schemas revised. -/
def Components.revised (v : Revision) (c : Components) : Components :=
  { c with
    schemas := c.schemas.map (onEntry (Schema.revisedPlace v))
    responses := c.responses.map (onEntry (Response.revised v))
    parameters := c.parameters.map (onEntry (Parameter.revised v))
    requestBodies := c.requestBodies.map (onEntry (RequestBody.revised v)) }

/-- The document with all its schemas revised. -/
def revised (v : Revision) (d : Document) : Document :=
  { d with
    paths := d.paths.map (onEntry (PathItem.revised v))
    components := d.components.map (Components.revised v)
    definitions := d.definitions.map (onEntry (Schema.revisedPlace v))
    parameters := d.parameters.map (onEntry (Parameter.revised v))
    responses := d.responses.map (onEntry (Response.revised v)) }

end Document

/-! ## What pointers lead to -/

/-- The view with the same done to every part that it shows. -/
def View.map {α : Type} (f : α → α) : View α → View α
  | .keyed entries => .keyed (List.map (onEntry f) entries)
  | .indexed items => .indexed (items.map f)
  | .leaf kind => .leaf kind
  | .absent => .absent

namespace Target

/-- The part of a document with the schemas in it revised. -/
def revised (v : Revision) : Target → Target
  | .document d => .document (d.revised v)
  | .components c => .components (c.revised v)
  | .pathItem p => .pathItem (p.revised v)
  | .operation o => .operation (o.revised v)
  | .parameter p => .parameter (p.revised v)
  | .requestBody b => .requestBody (b.revised v)
  | .response r => .response (r.revised v)
  | .mediaType m => .mediaType (m.revised v)
  | .schema s => .schema (s.revised v)
  | .securityScheme s => .securityScheme s
  | .additionalFlag b => .additionalFlag b
  | .reference kind r => .reference kind (v.refOf kind r)
  | .value j => .value j
  | .pathItems named => .pathItems (named.map (onEntry (Document.PathItem.revised v)))
  | .schemas named => .schemas (named.map (onEntry (Schema.revisedPlace v)))
  | .parameters named => .parameters (named.map (onEntry (Document.Parameter.revised v)))
  | .responses named => .responses (named.map (onEntry (Document.Response.revised v)))
  | .operationResponses named =>
    .operationResponses (named.map (onEntry (RefOr.onBoth id (Document.Response.revised v))))
  | .requestBodies named => .requestBodies (named.map (onEntry (Document.RequestBody.revised v)))
  | .content named => .content (named.map (onEntry (Document.MediaType.revised v)))
  | .securitySchemes named => .securitySchemes named
  | .schemaList places => .schemaList (places.map (Schema.revisedPlace v))
  | .parameterList places =>
    .parameterList (places.map (RefOr.onBoth id (Document.Parameter.revised v)))
  | .values items => .values items
  | .absent => .absent

section

variable {α : Type} (part : α → Target) (f : α → α)

theorem revised_ofOption (h : ∀ a, (part a).revised v = part (f a)) (a : Option α) :
    (ofOption part a).revised v = ofOption part (a.map f) := by
  cases a with
  | none => rfl
  | some a => exact h a

theorem revised_entries (h : ∀ a, (part a).revised v = part (f a)) (named : List (String × α)) :
    List.map (onEntry (revised v)) (entries part named) = entries part (named.map (onEntry f)) := by
  unfold entries
  rw [List.map_map, List.map_map]
  refine List.map_congr_left fun e _ => ?_
  show (e.1, (part e.2).revised v) = (e.1, part (f e.2))
  rw [h]

theorem revised_atPlace {kind : ComponentKind} (h : ∀ a, (part a).revised v = part (f a))
    (place : RefOr α) :
    (atPlace kind part place).revised v = atPlace kind part (place.onBoth (v.refOf kind) f) := by
  cases place with
  | ref r => rfl
  | inline a => exact h a

end

theorem revised_atSchema (place : RefOr Schema) :
    (atSchema place).revised v = atSchema (Schema.revisedPlace v place) := by
  cases place <;> rfl

theorem revised_ofAdditional (a : Additional (RefOr Schema)) :
    (ofAdditional a).revised v = ofAdditional (onAdditional (Schema.revisedPlace v) a) := by
  cases a with
  | flag b => rfl
  | schema place => exact revised_atSchema place

/-- What has no schemas in it stays as it is. -/
theorem map_revised_of_fixed {α : Type} {part : α → Target} (h : ∀ a, (part a).revised v = part a)
    (items : List α) : (items.map part).map (revised v) = items.map part := by
  rw [List.map_map]
  exact List.map_congr_left fun a _ => h a

theorem revised_entries_of_fixed {α : Type} {part : α → Target}
    (h : ∀ a, (part a).revised v = part a) (named : List (String × α)) :
    List.map (onEntry (revised v)) (entries part named) = entries part named := by
  unfold entries
  rw [List.map_map]
  refine List.map_congr_left fun e _ => ?_
  show (e.1, (part e.2).revised v) = (e.1, part e.2)
  rw [h]

/-- Revised values give revised parts. -/
theorem map_revised {α : Type} {part : α → Target} {f : α → α}
    (h : ∀ a, (part a).revised v = part (f a)) (items : List α) :
    (items.map f).map part = (items.map part).map (revised v) := by
  rw [List.map_map, List.map_map]
  exact List.map_congr_left fun a _ => (h a).symm

theorem revised_ofOption_atSchema (place : Option (RefOr Schema)) :
    (ofOption atSchema place).revised v = ofOption atSchema (place.map (Schema.revisedPlace v)) :=
  revised_ofOption atSchema _ revised_atSchema place

theorem view_revised_schema (s : Schema) :
    (schema (s.revised v)).view = (schema s).view.map (revised v) := by
  have hproperties := revised_ofOption (v := v) schemas
    (List.map (onEntry (Schema.revisedPlace v))) (fun _ => rfl) s.properties
  have hadditional := revised_ofOption ofAdditional _ (revised_ofAdditional (v := v)) s.additional
  have henum : (ofOption values s.enum).revised v = ofOption values s.enum := by
    cases s.enum <;> rfl
  have hschemas : ∀ places : Option (List (RefOr Schema)),
      (ofOption schemaList places).revised v =
        ofOption schemaList (places.map (List.map (Schema.revisedPlace v))) :=
    revised_ofOption schemaList _ fun _ => rfl
  simp only [view, View.map, List.map_cons, List.map_nil, onEntry, hproperties, hadditional,
    revised_ofOption_atSchema, henum, hschemas]
  rw [Schema.properties_revised, Schema.additional_revised, Schema.items_revised,
    Schema.enum_revised, Schema.allOf_revised, Schema.anyOf_revised, Schema.oneOf_revised]

/-- No value inside another is revised. -/
theorem view_revised_value (j : Json) : (value j).view = (value j).view.map (revised v) := by
  simp only [view]
  cases Pointee.view j with
  | keyed fields => exact congrArg View.keyed (revised_entries_of_fixed (fun _ => rfl) fields).symm
  | indexed items => exact congrArg View.indexed (map_revised_of_fixed (fun _ => rfl) items).symm
  | leaf kind => rfl
  | absent => rfl

/-- A revised part looks like the part, with revised parts inside. -/
theorem view_revised (v : Revision) (t : Target) : (t.revised v).view = t.view.map (revised v) := by
  have hoperation : ∀ o : Option Document.Operation,
      (ofOption operation o).revised v = ofOption operation (o.map (Document.Operation.revised v)) :=
    revised_ofOption operation _ fun _ => rfl
  cases t with
  | document d =>
    have hcomponents := revised_ofOption components (Document.Components.revised v) (fun _ => rfl)
      d.components
    show (document (d.revised v)).view = _
    simp only [view, View.map, List.map_cons, List.map_nil, onEntry, hcomponents]
    rfl
  | components c => rfl
  | pathItem p =>
    show (pathItem (p.revised v)).view = _
    simp only [view, View.map, List.map_cons, List.map_nil, onEntry, hoperation]
    rfl
  | operation o =>
    have hbody := revised_ofOption (v := v) (atPlace .requestBody requestBody) _
      (revised_atPlace requestBody (Document.RequestBody.revised v) fun _ => rfl) o.requestBody
    show (operation (o.revised v)).view = _
    simp only [view, View.map, List.map_cons, List.map_nil, onEntry, hbody]
    rfl
  | parameter p =>
    show (parameter (p.revised v)).view = _
    simp only [view, View.map, List.map_cons, List.map_nil, onEntry, revised_ofOption_atSchema]
    rfl
  | requestBody b => rfl
  | response r =>
    have hcontent := revised_ofOption (v := v) content
      (List.map (onEntry (Document.MediaType.revised v))) (fun _ => rfl) r.content
    show (response (r.revised v)).view = _
    simp only [view, View.map, List.map_cons, List.map_nil, onEntry, hcontent,
      revised_ofOption_atSchema]
    rfl
  | mediaType m =>
    show (mediaType (m.revised v)).view = _
    simp only [view, View.map, List.map_cons, List.map_nil, onEntry, revised_ofOption_atSchema]
    rfl
  | schema s => exact view_revised_schema s
  | securityScheme s => rfl
  | additionalFlag b => rfl
  | reference kind r => rfl
  | value j => exact view_revised_value j
  | pathItems named =>
    exact congrArg View.keyed (revised_entries pathItem _ (fun _ => rfl) named).symm
  | schemas named => exact congrArg View.keyed (revised_entries atSchema _ revised_atSchema named).symm
  | parameters named =>
    exact congrArg View.keyed (revised_entries parameter _ (fun _ => rfl) named).symm
  | responses named =>
    exact congrArg View.keyed (revised_entries response _ (fun _ => rfl) named).symm
  | operationResponses named =>
    exact congrArg View.keyed
      (revised_entries _ _ (revised_atPlace response _ fun _ => rfl) named).symm
  | requestBodies named =>
    exact congrArg View.keyed (revised_entries requestBody _ (fun _ => rfl) named).symm
  | content named =>
    exact congrArg View.keyed (revised_entries mediaType _ (fun _ => rfl) named).symm
  | securitySchemes named =>
    exact congrArg View.keyed (revised_entries_of_fixed (fun _ => rfl) named).symm
  | schemaList places => exact congrArg View.indexed (map_revised revised_atSchema places)
  | parameterList places =>
    exact congrArg View.indexed (map_revised (revised_atPlace parameter _ fun _ => rfl) places)
  | values items => exact congrArg View.indexed (map_revised_of_fixed (fun _ => rfl) items).symm
  | absent => rfl

/-! ## Following pointers -/

theorem keys_onEntry {α : Type} (f : α → α) (entries : Dict α) :
    Dict.keys (List.map (onEntry f) entries) = entries.keys := by
  unfold Dict.keys
  rw [List.map_map]
  rfl

theorem get?_onEntry {α : Type} (f : α → α) (entries : Dict α) (key : String) :
    Dict.get? (List.map (onEntry f) entries) key = (entries.get? key).map f :=
  Dict.get?_map f entries key

theorem step_revised (v : Revision) (t : Target) (segment : String) (rest : List String) :
    Pointer.step (t.revised v) segment rest = (Pointer.step t segment rest).map (revised v) := by
  have hinstance : Pointee.view (t.revised v) = (Pointee.view t).map (revised v) := view_revised v t
  unfold Pointer.step
  rw [hinstance]
  cases Pointee.view t with
  | keyed entries =>
    dsimp only [View.map]
    rw [get?_onEntry, keys_onEntry]
    cases entries.get? segment <;> rfl
  | indexed items =>
    dsimp only [View.map]
    cases Pointer.index? segment with
    | none => rfl
    | some i =>
      dsimp only
      rw [List.getElem?_map, List.length_map]
      cases items[i]? <;> rfl
  | leaf kind => rfl
  | absent => rfl

theorem follow_revised (v : Revision) (t : Target) (segments : List String) :
    Pointer.follow (t.revised v) segments = (Pointer.follow t segments).map (revised v) := by
  induction segments generalizing t with
  | nil => rfl
  | cons segment rest ih =>
    rw [Pointer.follow, Pointer.follow, step_revised]
    cases Pointer.step t segment rest with
    | error e => rfl
    | ok part => exact ih part

end Target

namespace Document

/-- A pointer leads to the revision of what it led to. -/
theorem target_revised (v : Revision) (d : Document) (r : Ref) :
    (d.revised v).target r = (d.target r).map (Target.revised v) := by
  unfold target
  cases r.pointer with
  | error e => rfl
  | ok p =>
    have hfollow : p.resolve (Target.document (d.revised v)) =
        (p.resolve (Target.document d)).map (Target.revised v) :=
      Target.follow_revised v (.document d) p.segments
    dsimp only
    rw [hfollow]
    cases p.resolve (Target.document d) <;> rfl

/-- A step goes to the revision of what it went to, if values of the kind are revised alike wherever
they are. -/
theorem stepFrom_revised {α : Type} [Component α] {f : α → α}
    (hvalue : ∀ t : Target, Component.ofTarget? (t.revised v) = (Component.ofTarget? t).map f)
    (d : Document) (r : Ref) :
    stepFrom α (d.revised v) r =
      (stepFrom α d r).map (RefOr.onBoth (v.refOf (Component.kind α)) f) := by
  unfold stepFrom
  rw [target_revised]
  cases d.target r with
  | error e => rfl
  | ok t =>
    dsimp only [Except.map]
    rw [hvalue t]
    cases (Component.ofTarget? t : Option α) with
    | some a => rfl
    | none =>
      cases t with
      | reference kind next =>
        dsimp only [Option.map_none, Target.revised]
        split
        · rename_i hkind
          subst hkind
          rfl
        · rfl
      | _ => rfl

theorem revisedPlace_eq (v : Revision) :
    Schema.revisedPlace v = RefOr.onBoth v.ref (Schema.revised v) := by
  funext place
  cases place <;> rfl

theorem stepFrom_schema_revised (v : Revision) (d : Document) (r : Ref) :
    stepFrom Schema (d.revised v) r = (stepFrom Schema d r).map (Schema.revisedPlace v) := by
  rw [revisedPlace_eq]
  exact stepFrom_revised (fun t => by cases t <;> rfl) d r

/-! ## Places -/

/-- What is gathered from revised parts is what was gathered from the parts, with the same done to it. -/
theorem flatMap_map_of_comm {α β : Type} {f : α → α} {gather : α → List β} {g : β → β}
    (h : ∀ a, gather (f a) = (gather a).map g) (as : List α) :
    (as.map f).flatMap gather = (as.flatMap gather).map g := by
  rw [List.flatMap_map, List.map_flatMap]
  exact List.flatMap_congr fun a _ => h a

theorem flatMap_onEntry_of_comm {α β : Type} (gather : α → List β) {f : α → α} {g : β → β}
    (h : ∀ a, gather (f a) = (gather a).map g) (named : List (String × α)) :
    (named.map (onEntry f)).flatMap (fun e => gather e.2) =
      (named.flatMap fun e => gather e.2).map g := by
  rw [List.flatMap_map, List.map_flatMap]
  exact List.flatMap_congr fun e _ => h e.2

theorem map_snd_onEntry {α : Type} (f : α → α) (named : List (String × α)) :
    (named.map (onEntry f)).map (·.2) = (named.map (·.2)).map f := by
  rw [List.map_map, List.map_map]
  rfl

theorem toList_map {α : Type} (f : α → α) (a : Option α) : (a.map f).toList = a.toList.map f := by
  cases a <;> rfl

theorem inlineValues_onBoth {α : Type} (g : Ref → Ref) (f : α → α) (places : List (RefOr α)) :
    inlineValues (places.map (RefOr.onBoth g f)) = (inlineValues places).map f := by
  unfold inlineValues
  rw [List.filterMap_map, List.map_filterMap]
  refine List.filterMap_congr fun place _ => ?_
  cases place <;> rfl

theorem filterMap_ref?_onBoth {α : Type} (f : α → α) (places : List (RefOr α)) :
    (places.map (RefOr.onBoth id f)).filterMap RefOr.ref? = places.filterMap RefOr.ref? := by
  rw [List.filterMap_map]
  refine List.filterMap_congr fun place _ => ?_
  cases place <;> rfl

section

variable (v : Revision) (d : Document)

theorem operations_revised (item : PathItem) :
    (item.revised v).operations =
      item.operations.map fun (method, o) => (method, o.revised v) := by
  have hoperation : ∀ method,
      (item.revised v).operation? method = (item.operation? method).map (Operation.revised v) := by
    intro method
    cases method <;> rfl
  unfold PathItem.operations
  rw [List.map_filterMap]
  refine List.filterMap_congr fun method _ => ?_
  rw [hoperation, Option.map_map, Option.map_map]
  rfl

/-- What is gathered from the operations of a document. -/
theorem flatMap_operations_revised {β : Type} (gather : Operation → List β) {g : β → β}
    (h : ∀ o, gather (o.revised v) = (gather o).map g) (item : PathItem) :
    ((item.revised v).operations.flatMap fun e => gather e.2) =
      (item.operations.flatMap fun e => gather e.2).map g := by
  rw [operations_revised, List.flatMap_map, List.map_flatMap]
  exact List.flatMap_congr fun e _ => h e.2

theorem parameterPlaces_revised :
    (d.revised v).parameterPlaces =
      d.parameterPlaces.map (RefOr.onBoth id (Parameter.revised v)) := by
  refine flatMap_onEntry_of_comm
    (fun item => item.parameters ++ item.operations.flatMap fun e => e.2.parameters)
    (fun item => ?_) d.paths
  rw [List.map_append]
  exact congrArg _ (flatMap_operations_revised v (·.parameters) (fun _ => rfl) item)

theorem bodyPlaces_revised :
    (d.revised v).bodyPlaces = d.bodyPlaces.map (RefOr.onBoth id (RequestBody.revised v)) := by
  refine flatMap_onEntry_of_comm
    (fun item : PathItem => item.operations.flatMap fun e => e.2.requestBody.toList)
    (fun item => ?_) d.paths
  exact flatMap_operations_revised v (·.requestBody.toList) (fun o => toList_map _ o.requestBody) item

theorem responsePlaces_revised :
    (d.revised v).responsePlaces = d.responsePlaces.map (RefOr.onBoth id (Response.revised v)) := by
  refine flatMap_onEntry_of_comm
    (fun item : PathItem => item.operations.flatMap fun e => e.2.responses.map (·.2))
    (fun item => ?_) d.paths
  exact flatMap_operations_revised v (·.responses.map (·.2)) (fun o => map_snd_onEntry _ o.responses)
    item

theorem contentPlaces_revised (content : List (String × MediaType)) :
    contentPlaces (content.map (onEntry (MediaType.revised v))) =
      (contentPlaces content).map (Schema.revisedPlace v) := by
  refine flatMap_onEntry_of_comm (fun m : MediaType => m.schema.toList) (fun m => ?_) content
  exact toList_map _ m.schema

theorem places_revised_parameter (p : Parameter) :
    (p.revised v).places = p.places.map (Schema.revisedPlace v) := by
  unfold Parameter.places Parameter.revised
  rw [toList_map, toList_map, List.map_append]

theorem places_revised_response (r : Response) :
    (r.revised v).places = r.places.map (Schema.revisedPlace v) := by
  have hcontent : contentPlaces ((r.revised v).content.getD []) =
      (contentPlaces (r.content.getD [])).map (Schema.revisedPlace v) := by
    unfold Response.revised
    cases r.content with
    | none => rfl
    | some content => exact contentPlaces_revised v content
  unfold Response.places
  rw [hcontent, List.map_append]
  exact congrArg _ (toList_map _ r.schema)

/-- The same places for schemas are there, in the same order. -/
theorem schemaPlaces_revised :
    (d.revised v).schemaPlaces = d.schemaPlaces.map (Schema.revisedPlace v) := by
  have hcomponents : (d.revised v).components.getD {} = (d.components.getD {}).revised v := by
    show (d.components.map (Components.revised v)).getD {} = _
    cases d.components <;> rfl
  unfold schemaPlaces
  dsimp only
  rw [hcomponents, parameterPlaces_revised, bodyPlaces_revised, responsePlaces_revised,
    inlineValues_onBoth, inlineValues_onBoth, inlineValues_onBoth]
  dsimp only [Components.revised, revised]
  simp only [map_snd_onEntry, List.map_append]
  simp only [← List.map_append]
  rw [flatMap_map_of_comm (places_revised_parameter v), flatMap_map_of_comm (places_revised_response v),
    flatMap_map_of_comm fun b => contentPlaces_revised v b.content]
  simp only [List.map_append]

/-- As many schemas are there, and as many are nested in each. -/
theorem stepsFor_revised (place : RefOr Schema) :
    (d.revised v).stepsFor (Schema.revisedPlace v place) = d.stepsFor place := by
  have hnested : (d.revised v).nestedSchemas = d.nestedSchemas.map (Schema.revised v) := by
    unfold nestedSchemas
    rw [schemaPlaces_revised]
    exact flatMap_map_of_comm (Schema.nestedPlace_revised v) d.schemaPlaces
  unfold stepsFor
  rw [Schema.nestedPlace_revised, hnested, List.length_map, List.length_map]

/-- The same schemas are named. -/
theorem schemas_revised :
    (d.revised v).schemas =
      d.schemas.map fun named => { named with schema := Schema.revisedPlace v named.schema } := by
  have hcomponents : ((d.revised v).components.map (·.schemas)).getD [] =
      ((d.components.map (·.schemas)).getD []).map (onEntry (Schema.revisedPlace v)) := by
    show ((d.components.map (Components.revised v)).map (·.schemas)).getD [] = _
    cases d.components <;> rfl
  unfold schemas
  rw [hcomponents, List.map_append, List.map_map, List.map_map]
  show _ ++ (d.definitions.map (onEntry (Schema.revisedPlace v))).map _ = _
  rw [List.map_map, List.map_map]
  rfl

end

end Document

end ApiShape
