import ApiShape.Document.Resolve
import ApiShape.Proofs.Dict
import ApiShape.Proofs.Pointer.Steps

/-!
# The places of documents

Whatever stands in a schema stands at one of its places, and whatever a pointer into a document leads
to as a schema stands at a place of the document. So the references at those places are among the
references of the document.
-/

namespace ApiShape

/-! ## Schemas inside schemas -/

namespace Schema

variable {s t : Schema} {place : RefOr Schema}

theorem nestedPlaces_eq (places : List (RefOr Schema)) :
    nestedPlaces places = places.flatMap nestedPlace := by
  induction places with
  | nil => rfl
  | cons place rest ih => rw [nestedPlaces, List.flatMap_cons, ih]

theorem nestedNamed_eq (named : List (String × RefOr Schema)) :
    nestedNamed named = (named.map (·.2)).flatMap nestedPlace := by
  induction named with
  | nil => rfl
  | cons e rest ih => rw [nestedNamed, List.map_cons, List.flatMap_cons, ih]

theorem nestedPlace?_eq (place : Option (RefOr Schema)) :
    nestedPlace? place = place.toList.flatMap nestedPlace := by
  cases place with
  | none => rfl
  | some place => rw [nestedPlace?, Option.toList_some, List.flatMap_singleton]

theorem nestedPlaces?_eq (places : Option (List (RefOr Schema))) :
    nestedPlaces? places = (places.getD []).flatMap nestedPlace := by
  cases places with
  | none => rfl
  | some places => exact nestedPlaces_eq places

theorem nestedNamed?_eq (named : Option (List (String × RefOr Schema))) :
    nestedNamed? named = ((named.getD []).map (·.2)).flatMap nestedPlace := by
  cases named with
  | none => rfl
  | some named => exact nestedNamed_eq named

theorem nestedAdditional_eq (additional : Option (Additional (RefOr Schema))) :
    nestedAdditional additional =
      (match additional with
        | some (.schema a) => [a]
        | _ => []).flatMap nestedPlace := by
  rcases additional with _ | _ | place
  · rfl
  · rfl
  · rw [nestedAdditional, List.flatMap_singleton]

/-- The schemas in a schema are the schema and those at its places. -/
theorem nested_eq (s : Schema) : s.nested = s :: s.parts.flatMap nestedPlace := by
  cases s
  rw [nested, nestedNamed?_eq, nestedAdditional_eq, nestedPlace?_eq, nestedPlaces?_eq,
    nestedPlaces?_eq, nestedPlaces?_eq]
  simp only [← List.flatMap_append]
  rfl

theorem mem_parts_of_property {e : String × RefOr Schema} (he : e ∈ s.properties.getD []) :
    e.2 ∈ s.parts := by
  unfold parts
  simp only [List.mem_append]
  exact .inl (.inl (.inl (.inl (.inl (List.mem_map.2 ⟨e, he, rfl⟩)))))

theorem mem_parts_of_additional (h : s.additional = some (.schema place)) : place ∈ s.parts := by
  unfold parts
  simp only [List.mem_append, h]
  exact .inl (.inl (.inl (.inl (.inr (List.mem_singleton_self _)))))

theorem mem_parts_of_items (h : s.items = some place) : place ∈ s.parts := by
  unfold parts
  simp only [List.mem_append, h]
  exact .inl (.inl (.inl (.inr (List.mem_singleton_self _))))

theorem mem_parts_of_anyOf (h : place ∈ s.anyOf.getD []) : place ∈ s.parts := by
  unfold parts
  simp only [List.mem_append]
  exact .inl (.inr h)

theorem mem_parts_of_oneOf (h : place ∈ s.oneOf.getD []) : place ∈ s.parts := by
  unfold parts
  simp only [List.mem_append]
  exact .inr h

theorem mem_parts_of_allOf (h : place ∈ s.allOf.getD []) : place ∈ s.parts := by
  unfold parts
  simp only [List.mem_append]
  exact .inl (.inl (.inr h))

theorem mem_nested_iff : t ∈ s.nested ↔ t = s ∨ ∃ place ∈ s.parts, t ∈ nestedPlace place := by
  rw [nested_eq, List.mem_cons, List.mem_flatMap]

theorem sizeOf_lt_of_mem_parts (h : place ∈ s.parts) : sizeOf place < sizeOf s := by
  obtain ⟨types, format, title, description, deprecated, nullable, default, minimum, maximum,
    exclusiveMinimum, exclusiveMaximum, minLength, maxLength, pattern, minItems, maxItems,
    readOnly, writeOnly, properties, required, additional, items, enum, const, allOf, anyOf,
    oneOf, discriminator, extensions⟩ := s
  have hlist : ∀ {branches : Option (List (RefOr Schema))}, place ∈ branches.getD [] →
      sizeOf place < sizeOf branches := by
    intro branches hmem
    cases branches with
    | none => cases hmem
    | some branches =>
      rw [Option.getD_some] at hmem
      have := List.sizeOf_lt_of_mem hmem
      rw [Option.some.sizeOf_spec]
      omega
  simp only [parts, List.mem_append] at h
  rw [mk.sizeOf_spec]
  rcases h with ((((h | h) | h) | h) | h) | h
  · obtain ⟨e, he, rfl⟩ := List.mem_map.1 h
    cases properties with
    | none => cases he
    | some named =>
      rw [Option.getD_some] at he
      have := List.sizeOf_lt_of_mem he
      have : sizeOf e.2 < sizeOf e := by
        cases e
        simp only [Prod.mk.sizeOf_spec]
        omega
      simp only [Option.some.sizeOf_spec]
      omega
  · split at h
    · cases List.mem_singleton.1 h
      simp only [Option.some.sizeOf_spec, Additional.schema.sizeOf_spec]
      omega
    · cases h
  · cases items with
    | none => cases h
    | some item =>
      cases List.mem_singleton.1 h
      simp only [Option.some.sizeOf_spec]
      omega
  · have := hlist h
    omega
  · have := hlist h
    omega
  · have := hlist h
    omega

theorem mem_nestedPlace_inline : t ∈ nestedPlace (.inline s) ↔ t ∈ s.nested := by
  rw [nestedPlace]

/-- What stands at a place of a nested schema is nested. -/
theorem mem_nested_of_mem_parts {s t u : Schema} (ht : t ∈ s.nested)
    (hu : .inline u ∈ t.parts) : u ∈ s.nested := by
  rcases mem_nested_iff.1 ht with rfl | ⟨place, hplace, ht⟩
  · exact mem_nested_iff.2 (.inr ⟨_, hu, mem_nestedPlace_inline.2 (mem_nested_iff.2 (.inl rfl))⟩)
  · cases place with
    | ref r =>
      rw [nestedPlace] at ht
      cases ht
    | inline v =>
      have hsize : sizeOf v < sizeOf s := by
        have := sizeOf_lt_of_mem_parts hplace
        rw [RefOr.inline.sizeOf_spec] at this
        omega
      have hu := mem_nested_of_mem_parts (mem_nestedPlace_inline.1 ht) hu
      exact mem_nested_iff.2 (.inr ⟨_, hplace, mem_nestedPlace_inline.2 hu⟩)
termination_by sizeOf s

/-- What is nested in a nested schema is nested. -/
theorem nested_subset {s t : Schema} (ht : t ∈ s.nested) : t.nested ⊆ s.nested := by
  intro u hu
  rcases mem_nested_iff.1 hu with rfl | ⟨place, hplace, hu⟩
  · exact ht
  · cases place with
    | ref r =>
      rw [nestedPlace] at hu
      cases hu
    | inline v =>
      have hsize : sizeOf v < sizeOf t := by
        have := sizeOf_lt_of_mem_parts hplace
        rw [RefOr.inline.sizeOf_spec] at this
        omega
      exact nested_subset (mem_nested_of_mem_parts ht hplace) (mem_nestedPlace_inline.1 hu)
termination_by sizeOf t

end Schema

/-! ## Places of a document -/

namespace Document

variable {d : Document} {s t : Schema} {place : RefOr Schema}

theorem mem_schemaPlaces_of_mem_schemas {x : NamedSchema} (hx : x ∈ d.schemas) :
    x.schema ∈ d.schemaPlaces := by
  unfold schemas at hx
  unfold schemaPlaces
  simp only [List.mem_append]
  rcases List.mem_append.1 hx with hx | hx
  · obtain ⟨e, he, rfl⟩ := List.mem_map.1 hx
    refine .inl (.inl (.inl (.inl ?_)))
    cases hc : d.components with
    | none =>
      rw [hc] at he
      cases he
    | some c =>
      rw [hc] at he
      exact List.mem_map_of_mem he
  · obtain ⟨e, he, rfl⟩ := List.mem_map.1 hx
    exact .inl (.inl (.inl (.inr (List.mem_map_of_mem he))))

/-- A place of a document: it lies in no schema, or right inside one of the schemas. -/
def HasPlace (d : Document) (place : RefOr Schema) : Prop :=
  place ∈ d.schemaPlaces ∨ ∃ s ∈ d.nestedSchemas, place ∈ s.parts

theorem HasPlace.mem_nestedSchemas (h : d.HasPlace (.inline s)) : s ∈ d.nestedSchemas := by
  rcases h with h | ⟨t, ht, hs⟩
  · exact List.mem_flatMap.2
      ⟨_, h, Schema.mem_nestedPlace_inline.2 (Schema.mem_nested_iff.2 (.inl rfl))⟩
  · obtain ⟨place, hplace, ht⟩ := List.mem_flatMap.1 ht
    cases place with
    | ref r =>
      rw [Schema.nestedPlace] at ht
      cases ht
    | inline root =>
      have hroot := Schema.mem_nested_of_mem_parts (Schema.mem_nestedPlace_inline.1 ht) hs
      exact List.mem_flatMap.2 ⟨_, hplace, Schema.mem_nestedPlace_inline.2 hroot⟩

/-- Whatever is nested in a schema at a place of a document is one of its schemas. -/
theorem HasPlace.nested_subset (h : d.HasPlace (.inline s)) : s.nested ⊆ d.nestedSchemas := by
  obtain ⟨place, hplace, hs⟩ := List.mem_flatMap.1 h.mem_nestedSchemas
  cases place with
  | ref r =>
    rw [Schema.nestedPlace] at hs
    cases hs
  | inline root =>
    intro t ht
    have hroot := Schema.nested_subset (Schema.mem_nestedPlace_inline.1 hs) ht
    exact List.mem_flatMap.2 ⟨_, hplace, Schema.mem_nestedPlace_inline.2 hroot⟩

theorem HasPlace.parts (h : d.HasPlace (.inline s)) (hplace : place ∈ s.parts) :
    d.HasPlace place :=
  .inr ⟨s, h.mem_nestedSchemas, hplace⟩

/-- A reference at a place of a document is one of its references. -/
theorem HasPlace.mem_references {r : Ref} (h : d.HasPlace (.ref r)) : r ∈ d.references := by
  unfold references
  refine List.mem_append_right _ (List.mem_flatMap.2 ?_)
  rcases h with h | ⟨s, hs, hr⟩
  · exact ⟨_, h, List.mem_append_left _ (List.mem_singleton_self r)⟩
  · obtain ⟨place, hplace, hs⟩ := List.mem_flatMap.1 hs
    exact ⟨place, hplace, List.mem_append_right _
      (List.mem_flatMap.2 ⟨s, hs, List.mem_filterMap.2 ⟨_, hr, rfl⟩⟩)⟩

end Document

/-! ## What pointers lead to -/

namespace Target

variable {t t' : Target} {place : RefOr Schema}

/-- The places for schemas in an operation, as far as they stand right there. -/
def operationPlaces (o : Document.Operation) : List (RefOr Schema) :=
  (Document.inlineValues o.parameters).flatMap Document.Parameter.places ++
    (Document.inlineValues o.requestBody.toList).flatMap
      (fun b => Document.contentPlaces b.content) ++
    (Document.inlineValues (o.responses.map (·.2))).flatMap Document.Response.places

/-- The places for schemas in a path, as far as they stand right there. -/
def pathPlaces (p : Document.PathItem) : List (RefOr Schema) :=
  (Document.inlineValues p.parameters).flatMap Document.Parameter.places ++
    p.operations.flatMap fun (_, o) => operationPlaces o

open Document in
/-- The places for schemas that a part of a document is or holds, those in schemas apart. -/
def places : Target → List (RefOr Schema)
  | .document d => d.schemaPlaces
  | .components c =>
    c.schemas.map (·.2) ++ (c.parameters.map (·.2)).flatMap Parameter.places ++
      (c.requestBodies.map (·.2)).flatMap (fun b => contentPlaces b.content) ++
      (c.responses.map (·.2)).flatMap Response.places
  | .pathItem p => pathPlaces p
  | .operation o => operationPlaces o
  | .parameter p => p.places
  | .requestBody b => contentPlaces b.content
  | .response r => r.places
  | .mediaType m => m.schema.toList
  | .schema s => [.inline s]
  | .reference .schema r => [.ref r]
  | .pathItems named => named.flatMap fun (_, p) => pathPlaces p
  | .schemas named => named.map (·.2)
  | .parameters named => (named.map (·.2)).flatMap Parameter.places
  | .responses named => (named.map (·.2)).flatMap Response.places
  | .operationResponses named => (inlineValues (named.map (·.2))).flatMap Response.places
  | .requestBodies named => (named.map (·.2)).flatMap fun b => contentPlaces b.content
  | .content named => contentPlaces named
  | .schemaList places => places
  | .parameterList places => (inlineValues places).flatMap Parameter.places
  | _ => []

theorem places_atSchema (place : RefOr Schema) : (atSchema place).places = [place] := by
  cases place <;> rfl

/-- The parts that a part shows to a pointer. -/
def shown (t : Target) : List Target :=
  match t.view with
  | .keyed entries => entries.values
  | .indexed items => items
  | .leaf _ | .absent => []

theorem mem_shown_of_step {segment : String} {rest : List String}
    (h : Pointer.step t segment rest = .ok t') : t' ∈ t.shown := by
  unfold shown
  rcases Pointer.cases_of_step h with ⟨entries, hview, hget⟩ | ⟨items, i, hview, -, hget⟩
  · rw [show t.view = .keyed entries from hview]
    exact List.mem_map.2 ⟨_, Dict.mem_of_get?_eq_some hget, rfl⟩
  · rw [show t.view = .indexed items from hview]
    exact List.mem_of_getElem? hget

/-! ## Parts of several kinds -/

theorem mem_places_ofOption {α : Type} {part : α → Target} {a : Option α}
    (h : place ∈ (ofOption part a).places) : ∃ b, a = some b ∧ place ∈ (part b).places := by
  cases a with
  | none => cases h
  | some b => exact ⟨b, rfl, h⟩

theorem mem_places_atPlace {α : Type} {kind : ComponentKind} {part : α → Target} {a : RefOr α}
    (hkind : kind ≠ .schema) (h : place ∈ (atPlace kind part a).places) :
    ∃ b, a = .inline b ∧ place ∈ (part b).places := by
  cases a with
  | ref r =>
    cases kind with
    | schema => exact absurd rfl hkind
    | _ => cases h
  | inline b => exact ⟨b, rfl, h⟩

theorem places_ofSchemaOption (a : Option (RefOr Schema)) :
    (ofOption atSchema a).places = a.toList := by
  cases a with
  | none => rfl
  | some a => exact places_atSchema a

theorem mem_values_entries {α : Type} {part : α → Target} {named : List (String × α)} :
    t ∈ (entries part named).values ↔ ∃ a ∈ named.map (·.2), part a = t := by
  simp only [Dict.values, entries, List.map_map, List.mem_map]
  constructor
  · rintro ⟨e, he, rfl⟩
    exact ⟨e.2, ⟨e, he, rfl⟩, rfl⟩
  · rintro ⟨_, ⟨e, he, rfl⟩, rfl⟩
    exact ⟨e, he, rfl⟩

theorem get?_entries {α : Type} (part : α → Target) (named : List (String × α)) (key : String) :
    (entries part named).get? key = (Dict.get? named key).map part :=
  Dict.get?_map part named key

theorem mem_inlineValues {α : Type} {places : List (RefOr α)} {a : α} :
    a ∈ Document.inlineValues places ↔ .inline a ∈ places := by
  unfold Document.inlineValues
  rw [List.mem_filterMap]
  constructor
  · rintro ⟨place, hplace, h⟩
    cases place with
    | ref r => cases h
    | inline b =>
      cases h
      exact hplace
  · exact fun h => ⟨_, h, rfl⟩

/-! ## Places of the parts shown -/

theorem mem_schemaPlaces_of_mem_pathPlaces {d : Document} {p : Document.PathItem}
    (hp : p ∈ d.paths.map (·.2)) (h : place ∈ pathPlaces p) : place ∈ d.schemaPlaces := by
  obtain ⟨e, he, rfl⟩ := List.mem_map.1 hp
  simp only [pathPlaces, operationPlaces, List.mem_append, List.mem_flatMap, mem_inlineValues] at h
  simp only [Document.schemaPlaces, List.mem_append, List.mem_flatMap, mem_inlineValues,
    Document.parameterPlaces, Document.bodyPlaces, Document.responsePlaces]
  rcases h with ⟨a, ha, h⟩ | ⟨o, ho, (⟨a, ha, h⟩ | ⟨b, hb, h⟩) | ⟨r, hr, h⟩⟩
  · exact .inl (.inl (.inr ⟨a, .inr ⟨e, he, .inl ha⟩, h⟩))
  · exact .inl (.inl (.inr ⟨a, .inr ⟨e, he, .inr ⟨o, ho, ha⟩⟩, h⟩))
  · exact .inl (.inr ⟨b, .inr ⟨e, he, o, ho, hb⟩, h⟩)
  · exact .inr ⟨r, .inr ⟨e, he, o, ho, hr⟩, h⟩

theorem mem_places_of_shown_document {d : Document} (h : t ∈ (document d).shown)
    (hplace : place ∈ t.places) : place ∈ d.schemaPlaces := by
  simp only [shown, view, Dict.values, List.map_cons, List.map_nil, List.mem_cons,
    List.not_mem_nil, or_false] at h
  simp only [Document.schemaPlaces, List.flatMap_append, List.mem_append]
  rcases h with rfl | rfl | rfl | rfl | rfl | rfl
  · obtain ⟨p, hp, hplace⟩ := List.mem_flatMap.1 hplace
    have := mem_schemaPlaces_of_mem_pathPlaces (List.mem_map.2 ⟨p, hp, rfl⟩) hplace
    simpa only [Document.schemaPlaces, List.flatMap_append, List.mem_append] using this
  · obtain ⟨c, hc, hplace⟩ := mem_places_ofOption hplace
    simp only [places, List.mem_append] at hplace
    rw [hc, Option.getD_some]
    rcases hplace with ((h | h) | h) | h
    · exact .inl (.inl (.inl (.inl h)))
    · exact .inl (.inl (.inr (.inl (.inl h))))
    · exact .inl (.inr (.inl h))
    · exact .inr (.inl (.inl h))
  · exact .inl (.inl (.inl (.inr hplace)))
  · exact .inl (.inl (.inr (.inl (.inr hplace))))
  · exact .inr (.inl (.inr hplace))
  · cases hplace

theorem mem_places_of_shown_components {c : Document.Components} (h : t ∈ (components c).shown)
    (hplace : place ∈ t.places) : place ∈ (components c).places := by
  simp only [shown, view, Dict.values, List.map_cons, List.map_nil, List.mem_cons,
    List.not_mem_nil, or_false] at h
  simp only [places, List.mem_append]
  rcases h with rfl | rfl | rfl | rfl | rfl
  · exact .inl (.inl (.inl hplace))
  · exact .inr hplace
  · exact .inl (.inl (.inr hplace))
  · exact .inl (.inr hplace)
  · cases hplace

/-- An operation that is there is one of the operations of the path. -/
theorem mem_operations {p : Document.PathItem} {method : Method} {o : Document.Operation}
    (h : p.operation? method = some o) : (method, o) ∈ p.operations := by
  refine List.mem_filterMap.2 ⟨method, ?_, by rw [h]; rfl⟩
  cases method <;> decide

theorem mem_shown_pathItem {p : Document.PathItem} (h : t ∈ (pathItem p).shown) :
    (∃ method, t = ofOption operation (p.operation? method)) ∨ t = .parameterList p.parameters := by
  simp only [shown, view, Dict.values, List.map_cons, List.map_nil, List.mem_cons,
    List.not_mem_nil, or_false] at h
  rcases h with h | h | h | h | h | h | h | h | h
  · exact .inl ⟨.get, h⟩
  · exact .inl ⟨.put, h⟩
  · exact .inl ⟨.post, h⟩
  · exact .inl ⟨.delete, h⟩
  · exact .inl ⟨.options, h⟩
  · exact .inl ⟨.head, h⟩
  · exact .inl ⟨.patch, h⟩
  · exact .inl ⟨.trace, h⟩
  · exact .inr h

theorem mem_places_of_shown_pathItem {p : Document.PathItem} (h : t ∈ (pathItem p).shown)
    (hplace : place ∈ t.places) : place ∈ pathPlaces p := by
  rcases mem_shown_pathItem h with ⟨method, rfl⟩ | rfl
  · obtain ⟨o, ho, hplace⟩ := mem_places_ofOption hplace
    exact List.mem_append_right _ (List.mem_flatMap.2 ⟨(method, o), mem_operations ho, hplace⟩)
  · exact List.mem_append_left _ hplace

theorem mem_places_of_shown_operation {o : Document.Operation} (h : t ∈ (operation o).shown)
    (hplace : place ∈ t.places) : place ∈ operationPlaces o := by
  simp only [shown, view, Dict.values, List.map_cons, List.map_nil, List.mem_cons,
    List.not_mem_nil, or_false] at h
  simp only [operationPlaces, List.mem_append]
  rcases h with rfl | rfl | rfl
  · exact .inl (.inl hplace)
  · obtain ⟨b, hb, hplace⟩ := mem_places_ofOption hplace
    obtain ⟨b', rfl, hplace⟩ := mem_places_atPlace (by decide) hplace
    have hb := mem_inlineValues.2 (Option.mem_toList.2 hb)
    exact .inl (.inr (List.mem_flatMap.2 ⟨b', hb, hplace⟩))
  · exact .inr hplace

theorem mem_parts_of_shown_schema {s : Schema} (h : t ∈ (schema s).shown)
    (hplace : place ∈ t.places) : place ∈ s.parts := by
  simp only [shown, view, Dict.values, List.map_cons, List.map_nil, List.mem_cons,
    List.not_mem_nil, or_false] at h
  simp only [Schema.parts, List.mem_append]
  rcases h with rfl | rfl | rfl | rfl | rfl | rfl | rfl
  · obtain ⟨named, hnamed, hplace⟩ := mem_places_ofOption hplace
    rw [hnamed]
    exact .inl (.inl (.inl (.inl (.inl hplace))))
  · obtain ⟨additional, hadditional, hplace⟩ := mem_places_ofOption hplace
    rw [hadditional]
    cases additional with
    | flag b => cases hplace
    | schema a =>
      rw [ofAdditional, places_atSchema] at hplace
      exact .inl (.inl (.inl (.inl (.inr hplace))))
  · rw [places_ofSchemaOption] at hplace
    exact .inl (.inl (.inl (.inr hplace)))
  · obtain ⟨_, _, hplace⟩ := mem_places_ofOption hplace
    cases hplace
  · obtain ⟨branches, hbranches, hplace⟩ := mem_places_ofOption hplace
    rw [hbranches]
    exact .inl (.inl (.inr hplace))
  · obtain ⟨branches, hbranches, hplace⟩ := mem_places_ofOption hplace
    rw [hbranches]
    exact .inl (.inr hplace)
  · obtain ⟨branches, hbranches, hplace⟩ := mem_places_ofOption hplace
    rw [hbranches]
    exact .inr hplace

theorem mem_places_of_shown_parameter {p : Document.Parameter} (h : t ∈ (parameter p).shown)
    (hplace : place ∈ t.places) : place ∈ p.places := by
  simp only [shown, view, Dict.values, List.map_cons, List.map_nil, List.mem_cons,
    List.not_mem_nil, or_false] at h
  unfold Document.Parameter.places
  rcases h with rfl | rfl
  · rw [places_ofSchemaOption] at hplace
    exact List.mem_append_left _ hplace
  · rw [places_ofSchemaOption] at hplace
    exact List.mem_append_right _ hplace

theorem mem_places_of_shown_response {r : Document.Response} (h : t ∈ (response r).shown)
    (hplace : place ∈ t.places) : place ∈ r.places := by
  simp only [shown, view, Dict.values, List.map_cons, List.map_nil, List.mem_cons,
    List.not_mem_nil, or_false] at h
  unfold Document.Response.places
  rcases h with rfl | rfl
  · obtain ⟨content, hcontent, hplace⟩ := mem_places_ofOption hplace
    rw [hcontent]
    exact List.mem_append_left _ hplace
  · rw [places_ofSchemaOption] at hplace
    exact List.mem_append_right _ hplace

theorem places_of_shown_value {j : Json} (h : t ∈ (value j).shown) : t.places = [] := by
  unfold shown at h
  rw [view] at h
  split at h
  · rename_i entries hview
    split at hview
    · cases hview
      obtain ⟨_, _, rfl⟩ := mem_values_entries.1 h
      rfl
    · cases hview
    · cases hview
    · cases hview
  · rename_i items hview
    split at hview
    · cases hview
    · cases hview
      obtain ⟨_, _, rfl⟩ := List.mem_map.1 h
      rfl
    · cases hview
    · cases hview
  · cases h
  · cases h

/-- The places that a part shown has are those of the part that shows it, or lie in the schema that
this is. -/
theorem mem_places_of_shown (h : t' ∈ t.shown) (hplace : place ∈ t'.places) :
    place ∈ t.places ∨ ∃ s, t = .schema s ∧ place ∈ s.parts := by
  cases t with
  | document d => exact .inl (mem_places_of_shown_document h hplace)
  | components c => exact .inl (mem_places_of_shown_components h hplace)
  | pathItem p => exact .inl (mem_places_of_shown_pathItem h hplace)
  | operation o => exact .inl (mem_places_of_shown_operation h hplace)
  | parameter p => exact .inl (mem_places_of_shown_parameter h hplace)
  | response r => exact .inl (mem_places_of_shown_response h hplace)
  | schema s => exact .inr ⟨s, rfl, mem_parts_of_shown_schema h hplace⟩
  | requestBody b =>
    cases List.mem_singleton.1 h
    exact .inl hplace
  | mediaType m =>
    cases List.mem_singleton.1 h
    rw [places_ofSchemaOption] at hplace
    exact .inl hplace
  | value j =>
    rw [places_of_shown_value h] at hplace
    cases hplace
  | pathItems named =>
    obtain ⟨p, hp, rfl⟩ := mem_values_entries.1 h
    obtain ⟨e, he, rfl⟩ := List.mem_map.1 hp
    exact .inl (List.mem_flatMap.2 ⟨e, he, hplace⟩)
  | schemas named =>
    obtain ⟨a, ha, rfl⟩ := mem_values_entries.1 h
    rw [places_atSchema, List.mem_singleton] at hplace
    exact .inl (hplace ▸ ha)
  | parameters named | responses named | requestBodies named =>
    obtain ⟨a, ha, rfl⟩ := mem_values_entries.1 h
    exact .inl (List.mem_flatMap.2 ⟨a, ha, hplace⟩)
  | operationResponses named =>
    obtain ⟨a, ha, rfl⟩ := mem_values_entries.1 h
    obtain ⟨r, rfl, hplace⟩ := mem_places_atPlace (by decide) hplace
    exact .inl (List.mem_flatMap.2 ⟨r, mem_inlineValues.2 ha, hplace⟩)
  | content named =>
    obtain ⟨m, hm, rfl⟩ := mem_values_entries.1 h
    obtain ⟨e, he, rfl⟩ := List.mem_map.1 hm
    exact .inl (List.mem_flatMap.2 ⟨e, he, hplace⟩)
  | securitySchemes named =>
    obtain ⟨_, _, rfl⟩ := mem_values_entries.1 h
    cases hplace
  | schemaList branches =>
    obtain ⟨a, ha, rfl⟩ := List.mem_map.1 h
    rw [places_atSchema, List.mem_singleton] at hplace
    exact .inl (hplace ▸ ha)
  | parameterList parameters =>
    obtain ⟨a, ha, rfl⟩ := List.mem_map.1 h
    obtain ⟨p, rfl, hplace⟩ := mem_places_atPlace (by decide) hplace
    exact .inl (List.mem_flatMap.2 ⟨p, mem_inlineValues.2 ha, hplace⟩)
  | values items =>
    obtain ⟨_, _, rfl⟩ := List.mem_map.1 h
    cases hplace
  | _ => cases h

end Target

/-! ## Schemas that references resolve to -/

namespace Document

variable {d : Document} {r : Ref} {s : Schema} {place : RefOr Schema} {t t' : Target}
  {segments : List String}

/-- From a part that has places of the document only, segments lead to such parts only. -/
theorem hasPlace_of_follow (ht : ∀ place ∈ t.places, d.HasPlace place)
    (h : Pointer.follow t segments = .ok t') : ∀ place ∈ t'.places, d.HasPlace place := by
  induction segments generalizing t with
  | nil =>
    cases h
    exact ht
  | cons segment rest ih =>
    rw [Pointer.follow] at h
    split at h
    · rename_i part hstep
      refine ih (fun place hplace => ?_) h
      rcases Target.mem_places_of_shown (Target.mem_shown_of_step hstep) hplace with
        hplace | ⟨s, rfl, hplace⟩
      · exact ht place hplace
      · have hs : d.HasPlace (.inline s) := ht _ (List.mem_singleton_self _)
        exact hs.parts hplace
    · cases h

/-- A reference that leads a step further, to a schema or to another reference to one, points at a
place for a schema. -/
theorem exists_target_of_stepFrom (h : stepFrom Schema d r = .ok place) :
    ∃ p, r.pointer = .ok p ∧
      Pointer.follow (Target.document d) p.segments = .ok (Target.atSchema place) := by
  unfold stepFrom target at h
  cases hp : r.pointer with
  | error e =>
    rw [hp] at h
    cases h
  | ok p =>
    rw [hp] at h
    dsimp only at h
    refine ⟨p, rfl, ?_⟩
    unfold Pointer.resolve at h
    cases ht : Pointer.follow (Target.document d) p.segments with
    | error e =>
      rw [ht] at h
      cases h
    | ok t =>
      rw [ht] at h
      cases t with
      | schema s =>
        cases h
        rfl
      | reference kind next =>
        change (if kind = .schema then Except.ok (RefOr.ref next) else _) = _ at h
        by_cases hkind : kind = .schema
        · rw [if_pos hkind] at h
          cases h
          rw [hkind]
          rfl
        · rw [if_neg hkind] at h
          cases h
      | _ => cases h

theorem hasPlace_of_stepFrom (h : stepFrom Schema d r = .ok place) : d.HasPlace place := by
  obtain ⟨p, _, ht⟩ := exists_target_of_stepFrom h
  have hdocument : ∀ place ∈ (Target.document d).places, d.HasPlace place :=
    fun place hplace => .inl hplace
  refine hasPlace_of_follow hdocument ht place ?_
  rw [Target.places_atSchema]
  exact List.mem_singleton_self _

/-- A reference that resolves leads a step further at least. -/
theorem exists_stepFrom_of_resolve (h : d.resolve Schema r = .ok s) :
    ∃ place, stepFrom Schema d r = .ok place := by
  unfold resolve at h
  rw [followFrom, dif_pos List.mem_cons_self] at h
  cases hstep : stepFrom Schema d r with
  | error e =>
    rw [hstep] at h
    cases h
  | ok place => exact ⟨place, rfl⟩

/-- Wherever a reference points, there are places of the document only. -/
theorem hasPlace_of_target (h : d.target r = .ok t) : ∀ place ∈ t.places, d.HasPlace place := by
  unfold target at h
  cases hr : r.pointer with
  | error e =>
    rw [hr] at h
    cases h
  | ok p =>
    rw [hr] at h
    dsimp only at h
    cases hfollow : p.resolve (Target.document d) with
    | error e =>
      rw [hfollow] at h
      cases h
    | ok t' =>
      rw [hfollow] at h
      cases h
      have hdocument : ∀ place ∈ (Target.document d).places, d.HasPlace place :=
        fun place hplace => .inl hplace
      exact hasPlace_of_follow hdocument hfollow

section

variable {α : Type} [Component α] {a : α}

theorem exists_target_of_stepFrom_inline (h : stepFrom α d r = .ok (.inline a)) :
    ∃ t, d.target r = .ok t ∧ Component.ofTarget? t = some a := by
  unfold stepFrom at h
  cases ht : d.target r with
  | error e =>
    rw [ht] at h
    cases h
  | ok t =>
    rw [ht] at h
    dsimp only at h
    refine ⟨t, rfl, ?_⟩
    split at h
    · rename_i b hb
      cases h
      exact hb
    · split at h
      · split at h <;> cases h
      · cases h

/-- What a reference resolves to stands where the last reference of the chain points. -/
theorem exists_target_of_resolve (h : d.resolve α r = .ok a) :
    ∃ q t, d.target q = .ok t ∧ Component.ofTarget? t = some a := by
  have hchain : ∀ (unfollowed : List String) (r : Ref), followFrom α d unfollowed r = .ok a →
      ∃ q t, d.target q = .ok t ∧ Component.ofTarget? t = some a := by
    intro unfollowed r
    induction unfollowed, r using followFrom.induct α d with
    | case1 unfollowed r hmem e hstep =>
      intro h
      rw [followFrom, dif_pos hmem, hstep] at h
      cases h
    | case2 unfollowed r hmem b hstep =>
      intro h
      rw [followFrom, dif_pos hmem, hstep] at h
      cases h
      exact ⟨r, exists_target_of_stepFrom_inline hstep⟩
    | case3 unfollowed r hmem next hstep ih =>
      intro h
      rw [followFrom, dif_pos hmem, hstep] at h
      exact ih h
    | case4 unfollowed r hmem =>
      intro h
      rw [followFrom, dif_neg hmem] at h
      cases h
  exact hchain _ r h

end

/-- What a reference resolves to is one of the schemas of the document. -/
theorem hasPlace_of_resolve (h : d.resolve Schema r = .ok s) : d.HasPlace (.inline s) := by
  obtain ⟨q, t, ht, hs⟩ := exists_target_of_resolve h
  cases t with
  | schema s' =>
    cases hs
    exact hasPlace_of_target ht _ (List.mem_singleton_self _)
  | _ => cases hs

end Document

end ApiShape
