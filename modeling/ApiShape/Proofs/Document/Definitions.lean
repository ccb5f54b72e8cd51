import ApiShape.Proofs.Alongside.Pairing
import ApiShape.Proofs.Document.ComponentNames
import ApiShape.Proofs.Document.Revised

/-!
# Schemas moved to the definitions

Version 3 keeps named schemas among the components of a document, version 2 among its definitions. A
document of the one layout becomes one of the other if the schemas are moved and all references to
them are changed. References that did lead to schemas lead to the same schemas then, with the references
in them changed, and references to anything else lead where they led.
-/

namespace ApiShape

/-! ## What is moved -/

/-- The value of a mapping, after schemas have moved: a reference changes, a name does not. -/
def Discriminator.relocatedValue (value : String) : String :=
  match Ref.parse value with
  | .ok _ => ApiShape.relocated value
  | .error _ => value

/-- The discriminator, after schemas have moved. -/
def Discriminator.relocated (x : Discriminator) : Discriminator :=
  { x with mapping := x.mapping.map (onEntry relocatedValue) }

/-- Changes references, those in mappings included, to what they are after schemas have moved. -/
def Revision.relocated : Revision where
  ref r := ⟨ApiShape.relocated r.text⟩
  own s := { s with discriminator := s.discriminator.map Discriminator.relocated }
  properties _ := rfl
  additional _ := rfl
  items _ := rfl
  enum _ := rfl
  allOf _ := rfl
  anyOf _ := rfl
  oneOf _ := rfl

/-- The document with other schemas in its components and with other definitions. -/
def Document.withSchemas (d : Document) (schemas definitions : List (String × RefOr Schema)) :
    Document :=
  { d with
    components := d.components.map fun c => { c with schemas }
    definitions }

/-- The named schemas among the components. -/
def Document.componentSchemas (d : Document) : List (String × RefOr Schema) :=
  (d.components.map (·.schemas)).getD []

/-- The document with the schemas of its components as definitions, in place of those it has, and with
references to them changed. -/
def Document.asDefinitions (d : Document) : Document :=
  (d.revised .relocated).withSchemas [] (d.revised .relocated).componentSchemas

/-- The values of the mapping that are references point right at named schemas of the components. -/
def Discriminator.IsRelocatable (x : Discriminator) : Prop :=
  ∀ e ∈ x.mapping, (Ref.parse e.2).isOk = true → NamesComponent e.2

instance (x : Discriminator) : Decidable x.IsRelocatable :=
  inferInstanceAs (Decidable (∀ e ∈ x.mapping, _))

namespace Schema

/-- All references at a place, those in mappings included, point right at named schemas of the
components. -/
structure IsRelocatable (place : RefOr Schema) : Prop where
  references : ∀ r ∈ references place, NamesComponent r.text
  mappings : ∀ s ∈ nestedPlace place, ∀ x ∈ s.discriminator, x.IsRelocatable

variable {s : Schema} {place : RefOr Schema}

theorem isRelocatable_iff :
    IsRelocatable place ↔ (∀ r ∈ references place, NamesComponent r.text) ∧
      ∀ s ∈ nestedPlace place, ∀ x ∈ s.discriminator, x.IsRelocatable :=
  ⟨fun h => ⟨h.1, h.2⟩, fun h => ⟨h.1, h.2⟩⟩

instance (place : RefOr Schema) : Decidable (IsRelocatable place) :=
  decidable_of_iff _ isRelocatable_iff.symm

theorem IsRelocatable.ref {r : Ref} (h : IsRelocatable (.ref r)) : NamesComponent r.text :=
  h.references r (List.mem_append_left _ (List.mem_singleton_self r))

theorem mem_references_inline {r : Ref} :
    r ∈ references (.inline s) ↔ ∃ part ∈ s.parts, r ∈ references part := by
  simp only [references, RefOr.ref?, Option.toList_none, List.nil_append, List.mem_append,
    List.mem_flatMap, List.mem_filterMap, Option.mem_toList, nestedPlace, mem_nested_iff]
  constructor
  · rintro ⟨t, rfl | ⟨part, hpart, ht⟩, place, hplace, hr⟩
    · exact ⟨place, hplace, .inl hr⟩
    · exact ⟨part, hpart, .inr ⟨t, ht, place, hplace, hr⟩⟩
  · rintro ⟨part, hpart, hr | ⟨t, ht, place, hplace, hr⟩⟩
    · exact ⟨s, .inl rfl, part, hpart, hr⟩
    · exact ⟨t, .inr ⟨part, hpart, ht⟩, place, hplace, hr⟩

/-- A schema is as its discriminator and its parts are. -/
theorem isRelocatable_inline_iff :
    IsRelocatable (.inline s) ↔
      (∀ x ∈ s.discriminator, x.IsRelocatable) ∧ ∀ part ∈ s.parts, IsRelocatable part := by
  constructor
  · intro h
    refine ⟨h.mappings s (mem_nestedPlace_inline.2 (mem_nested_iff.2 (.inl rfl))), ?_⟩
    intro part hpart
    refine ⟨fun r hr => h.references r (mem_references_inline.2 ⟨part, hpart, hr⟩), ?_⟩
    intro t ht
    exact h.mappings t (mem_nestedPlace_inline.2 (mem_nested_iff.2 (.inr ⟨part, hpart, ht⟩)))
  · rintro ⟨hdiscriminator, hparts⟩
    refine ⟨fun r hr => ?_, fun t ht => ?_⟩
    · obtain ⟨part, hpart, hr⟩ := mem_references_inline.1 hr
      exact (hparts part hpart).references r hr
    · rcases mem_nested_iff.1 (mem_nestedPlace_inline.1 ht) with rfl | ⟨part, hpart, ht⟩
      · exact hdiscriminator
      · exact (hparts part hpart).mappings t ht

theorem IsRelocatable.part (h : IsRelocatable (.inline s)) {part : RefOr Schema}
    (hpart : part ∈ s.parts) : IsRelocatable part :=
  (isRelocatable_inline_iff.1 h).2 part hpart

/-- What is nested at a place is relocatable if the place is. -/
theorem IsRelocatable.nested (h : IsRelocatable place) {s : Schema} (hs : s ∈ nestedPlace place) :
    IsRelocatable (.inline s) := by
  cases place with
  | ref r => cases hs
  | inline root =>
    have hsub := nested_subset (mem_nestedPlace_inline.1 hs)
    refine ⟨fun r hr => h.references r ?_, fun t ht => h.mappings t ?_⟩
    · obtain ⟨t, ht, hr⟩ := List.mem_flatMap.1 hr
      exact List.mem_flatMap.2 ⟨t, hsub (mem_nestedPlace_inline.1 ht), hr⟩
    · exact mem_nestedPlace_inline.2 (hsub (mem_nestedPlace_inline.1 ht))

/-- The references are changed, and stay in their places. -/
theorem references_revised (v : Revision) (place : RefOr Schema) :
    references (revisedPlace v place) = (references place).map v.ref := by
  have href : ∀ place : RefOr Schema, (revisedPlace v place).ref? = place.ref?.map v.ref := by
    intro place
    cases place <;> rfl
  unfold references
  rw [nestedPlace_revised, href, List.map_append, List.map_flatMap, List.flatMap_map]
  congr 1
  · cases place.ref? <;> rfl
  · refine List.flatMap_congr fun s _ => ?_
    rw [parts_revised, List.filterMap_map, List.map_filterMap]
    exact List.filterMap_congr fun part _ => href part

end Schema

/-! ## Locations -/

/-- The location does not lie in a part of the document whose name starts with `c`. -/
def IsElsewhere (location : String) : Prop :=
  ∃ c rest, c ≠ 'c' ∧ location.toList = '#' :: '/' :: c :: rest

/-- The first location is in a named schema of the components, the second one is the same in a
definition, or they are the same elsewhere. -/
def LocationMoves (l l' : String) : Prop :=
  (∃ rest, l = "#/components/schemas/" ++ rest ∧ l' = "#/definitions/" ++ rest) ∨
    l = l' ∧ IsElsewhere l

variable {l l' : String}

theorem IsElsewhere.append (h : IsElsewhere l) (part : String) : IsElsewhere (l ++ part) := by
  obtain ⟨c, rest, hc, hl⟩ := h
  exact ⟨c, rest ++ part.toList, hc, by rw [String.toList_append, hl]; rfl⟩

theorem LocationMoves.append (h : LocationMoves l l') (part : String) :
    LocationMoves (l ++ part) (l' ++ part) := by
  rcases h with ⟨rest, rfl, rfl⟩ | ⟨rfl, h⟩
  · exact .inl ⟨rest ++ part, String.append_assoc .., String.append_assoc ..⟩
  · exact .inr ⟨rfl, h.append part⟩

theorem LocationMoves.eq_relocated (h : LocationMoves l l') : l' = relocated l := by
  rcases h with ⟨rest, rfl, rfl⟩ | ⟨rfl, c, rest, hc, hl⟩
  · rw [relocated_append]
  · rw [relocated_of_ne hc hl]

/-! ## Schemas -/

/-- Schemas correspond whose references can be changed, before and after that. -/
def Pairing.moved : Pairing where
  ref r r' := NamesComponent r.text ∧ r' = ⟨relocated r.text⟩
  schema s s' := Schema.IsRelocatable (.inline s) ∧ s' = s.revised .relocated
  docs := Eq
  node := Eq
  location := LocationMoves
  reason _ _ := True
  error _ _ := True

namespace Pairing

variable {s : Schema} {place : RefOr Schema}

theorem place_moved (h : Schema.IsRelocatable place) :
    moved.place place (Schema.revisedPlace .relocated place) := by
  cases place with
  | ref r => exact .ref ⟨h.ref, rfl⟩
  | inline s => exact .inline ⟨h, rfl⟩

end Pairing

namespace Discriminator

variable {x : Discriminator}

/-- A value of a mapping names the same schema once it is changed. -/
theorem valueNames_relocatedValue {value : String}
    (h : (Ref.parse value).isOk = true → NamesComponent value) (name : String) :
    valueNames (relocatedValue value) name = valueNames value name := by
  unfold relocatedValue
  cases hparse : Ref.parse value with
  | error e => rfl
  | ok r =>
    have hvalue : NamesComponent value := h (by rw [hparse]; rfl)
    dsimp only
    unfold valueNames
    rw [hvalue.parse.1, hvalue.parse.2]
    dsimp only
    rw [hvalue.schemaName?_relocated]

/-- A value of a mapping is the text of a reference exactly if it is once both are changed. -/
theorem relocatedValue_eq_iff {value text : String}
    (h : (Ref.parse value).isOk = true → NamesComponent value) (htext : NamesComponent text) :
    relocatedValue value = ApiShape.relocated text ↔ value = text := by
  unfold relocatedValue
  cases hparse : Ref.parse value with
  | ok r =>
    have hvalue : NamesComponent value := h (by rw [hparse]; rfl)
    exact relocated_eq_iff hvalue htext
  | error e =>
    -- A name is no reference, changed or not.
    dsimp only
    constructor
    · rintro rfl
      rw [htext.parse.2] at hparse
      cases hparse
    · rintro rfl
      rw [htext.parse.1] at hparse
      cases hparse

/-- The first entry for which something holds is at the same position. -/
theorem find?_onEntry (P P' : String → Bool) {mapping : List (String × String)}
    {f : String → String} (h : ∀ e ∈ mapping, P' (f e.2) = P e.2) :
    (mapping.map (onEntry f)).find? (fun e => P' e.2) =
      (mapping.find? fun e => P e.2).map (onEntry f) := by
  induction mapping with
  | nil => rfl
  | cons e rest ih =>
    have hfirst : P' (onEntry f e).2 = P e.2 := h e List.mem_cons_self
    rw [List.map_cons, List.find?_cons, List.find?_cons, hfirst,
      ih fun e he => h e (List.mem_cons_of_mem _ he)]
    cases P e.2 <;> rfl

theorem tagForName_relocated (h : x.IsRelocatable) (name : String) :
    x.relocated.tagForName name = x.tagForName name := by
  have hfind := find?_onEntry (valueNames · name) (valueNames · name)
    fun e he => valueNames_relocatedValue (h e he) name
  unfold tagForName relocated
  dsimp only
  rw [hfind]
  cases x.mapping.find? fun e => valueNames e.2 name <;> rfl

/-- Where schemas have moved, the tag of the target of a reference is the same. -/
theorem tagForRef_relocated (h : x.IsRelocatable) {r : Ref} (hr : NamesComponent r.text) :
    x.relocated.tagForRef ⟨ApiShape.relocated r.text⟩ = x.tagForRef r := by
  have hfind := find?_onEntry (· == r.text) (· == ApiShape.relocated r.text)
    fun e he => by
      rw [Bool.eq_iff_iff, beq_iff_eq, beq_iff_eq]
      exact relocatedValue_eq_iff (h e he) hr
  have hname := tagForName_relocated h r.name
  rw [← hr.name_relocated] at hname
  unfold tagForRef
  rw [hname, hr.name_relocated]
  unfold relocated
  dsimp only
  rw [hfind]
  cases x.mapping.find? fun e => e.2 == r.text <;> rfl

theorem alongside_moved (h : x.IsRelocatable) : x.Alongside Pairing.moved.ref x.relocated where
  propertyName := rfl
  tagForName name := (tagForName_relocated h name).symm
  tagForRef := by
    rintro r _ ⟨hr, rfl⟩
    exact (tagForRef_relocated h hr).symm

end Discriminator

namespace Schema

variable {s : Schema}

/-- A schema corresponds to what it is changed to. -/
theorem alongside_moved (h : IsRelocatable (.inline s)) :
    s.Alongside Pairing.moved (s.revised .relocated) := by
  have hplace : ∀ place ∈ s.parts,
      Pairing.moved.place place (revisedPlace .relocated place) :=
    fun place hpart => Pairing.place_moved (h.part hpart)
  have hplaces : ∀ places : Option (List (RefOr Schema)),
      (∀ place ∈ places.getD [], place ∈ s.parts) →
      Option.Rel (List.Forall₂ Pairing.moved.place) places
        (places.map (List.map (revisedPlace .relocated))) := by
    intro places hparts
    refine rel_map fun listed hlisted => forall₂_map fun place hmem => hplace place (hparts place ?_)
    rw [hlisted]
    exact hmem
  have hproperties := properties_revised .relocated s
  have hadditional := additional_revised .relocated s
  have hitems := items_revised .relocated s
  have hallOf := allOf_revised .relocated s
  have hanyOf := anyOf_revised .relocated s
  have honeOf := oneOf_revised .relocated s
  rw [revised_eq] at hproperties hadditional hitems hallOf hanyOf honeOf ⊢
  refine {
    constraints := rfl
    const := rfl
    required := rfl
    tupleLength := rfl
    properties := ?_
    additional := ?_
    items := ?_
    types := rfl
    nullable := rfl
    enum := rfl
    docs := rfl
    literal := fun _ _ _ => rfl
    allOf := ?_
    anyOf := ?_
    oneOf := ?_
    discriminator := ?_ }
  · rw [hproperties]
    refine rel_map fun named hnamed => forall₂_map fun e he => ⟨rfl, hplace e.2 ?_⟩
    refine mem_parts_of_property ?_
    rw [hnamed]
    exact he
  · rw [hadditional]
    refine rel_map fun additional h => ?_
    cases additional with
    | flag b => exact .flag b
    | schema place => exact .schema (hplace place (mem_parts_of_additional h))
  · rw [hitems]
    exact rel_map fun place h => hplace place (mem_parts_of_items h)
  · rw [hallOf]
    exact hplaces s.allOf fun _ => mem_parts_of_allOf
  · rw [hanyOf]
    exact hplaces s.anyOf fun _ => mem_parts_of_anyOf
  · rw [honeOf]
    exact hplaces s.oneOf fun _ => mem_parts_of_oneOf
  · exact rel_map fun x hx => Discriminator.alongside_moved ((isRelocatable_inline_iff.1 h).1 x hx)

end Schema

/-! ## Documents -/

/-- The document has no definitions, and all its references to schemas, those in mappings included,
point right at named schemas of its components. -/
structure Document.IsRelocatable (d : Document) : Prop where
  definitions : d.definitions = []
  places : ∀ place ∈ d.schemaPlaces, Schema.IsRelocatable place

instance (d : Document) : Decidable d.IsRelocatable :=
  decidable_of_iff (d.definitions.isEmpty = true ∧ ∀ place ∈ d.schemaPlaces, Schema.IsRelocatable place)
    ⟨fun h => ⟨List.isEmpty_iff.1 h.1, h.2⟩, fun h => ⟨List.isEmpty_iff.2 h.1, h.2⟩⟩

theorem Document.IsRelocatable.of_hasPlace {d : Document} (h : d.IsRelocatable)
    {place : RefOr Schema} (hplace : d.HasPlace place) : Schema.IsRelocatable place := by
  rcases hplace with hplace | ⟨s, hs, hpart⟩
  · exact h.places place hplace
  · obtain ⟨root, hroot, hs⟩ := List.mem_flatMap.1 hs
    exact ((h.places root hroot).nested hs).part hpart

namespace Target

variable {d : Document} {name : String}

theorem toOption_step_schemas (named : List (String × RefOr Schema)) (rest : List String) :
    (Pointer.step (schemas named) name rest).toOption = (Dict.get? named name).map atSchema := by
  have hview : Pointee.view (schemas named) = .keyed (entries atSchema named) := rfl
  unfold Pointer.step
  rw [hview]
  dsimp only
  rw [get?_entries]
  cases Dict.get? named name <;> rfl

theorem toOption_follow_singleton (t : Target) (segment : String) :
    (Pointer.follow t [segment]).toOption = (Pointer.step t segment []).toOption := by
  rw [Pointer.follow]
  cases Pointer.step t segment [] <;> rfl

theorem toOption_follow_definition :
    (Pointer.follow (document d) ["definitions", name]).toOption =
      (Dict.get? d.definitions name).map atSchema := by
  have hstep : Pointer.step (document d) "definitions" [name] = .ok (schemas d.definitions) := rfl
  rw [Pointer.follow, hstep]
  dsimp only
  rw [toOption_follow_singleton, toOption_step_schemas]

theorem toOption_follow_component :
    (Pointer.follow (document d) ["components", "schemas", name]).toOption =
      (Dict.get? d.componentSchemas name).map atSchema := by
  have hstep : Pointer.step (document d) "components" ["schemas", name] =
      .ok (ofOption components d.components) := rfl
  rw [Pointer.follow, hstep]
  unfold Document.componentSchemas
  dsimp only
  cases d.components with
  | none => rfl
  | some c =>
    have hstep' : Pointer.step (components c) "schemas" [name] = .ok (schemas c.schemas) := rfl
    rw [ofOption, Pointer.follow, hstep']
    dsimp only
    rw [toOption_follow_singleton, toOption_step_schemas]
    rfl

/-- What a part is to a reference to a value of a kind: such a value, or another such reference. -/
def found? (α : Type) [Component α] (t : Target) : Option (RefOr α) :=
  match Component.ofTarget? t with
  | some a => some (.inline a)
  | none =>
    match t with
    | .reference kind next => if kind = Component.kind α then some (.ref next) else none
    | _ => none

theorem found?_atSchema (place : RefOr Schema) : (atSchema place).found? Schema = some place := by
  cases place <;> rfl

end Target

namespace Document

variable {d : Document} {r : Ref}

theorem toOption_target {p : Pointer} (hr : r.pointer = .ok p) :
    (d.target r).toOption = (Pointer.follow (Target.document d) p.segments).toOption := by
  unfold target Pointer.resolve
  rw [hr]
  dsimp only
  cases Pointer.follow (Target.document d) p.segments <;> rfl

theorem toOption_stepFrom (α : Type) [Component α] (d : Document) (r : Ref) :
    (stepFrom α d r).toOption = (d.target r).toOption.bind (Target.found? α) := by
  unfold stepFrom
  cases d.target r with
  | error e => rfl
  | ok t =>
    change _ = t.found? α
    unfold Target.found?
    dsimp only
    cases (Component.ofTarget? t : Option α) with
    | some a => rfl
    | none =>
      cases t with
      | reference kind next =>
        dsimp only
        split <;> rfl
      | _ => rfl

theorem componentSchemas_revised (v : Revision) (d : Document) :
    (d.revised v).componentSchemas = d.componentSchemas.map (onEntry (Schema.revisedPlace v)) := by
  show ((d.components.map (Components.revised v)).map (·.schemas)).getD [] = _
  unfold componentSchemas
  cases d.components <;> rfl

/-- Where schemas have moved, a reference leads to the schema that it led to. -/
theorem toOption_stepFrom_asDefinitions (hr : NamesComponent r.text) :
    (stepFrom Schema d.asDefinitions ⟨relocated r.text⟩).toOption =
      (stepFrom Schema d r).toOption.map (Schema.revisedPlace .relocated) := by
  obtain ⟨name, hpointer, hpointer'⟩ := hr.exists_pointer
  have hdefinitions : d.asDefinitions.definitions =
      d.componentSchemas.map (onEntry (Schema.revisedPlace .relocated)) :=
    componentSchemas_revised _ d
  -- Both pointers lead to what stands under the name, in one map or in the other.
  rw [toOption_stepFrom, toOption_stepFrom, toOption_target hpointer, toOption_target hpointer',
    Target.toOption_follow_component, Target.toOption_follow_definition, hdefinitions,
    Target.get?_onEntry]
  cases Dict.get? d.componentSchemas name with
  | none => rfl
  | some place =>
    exact (Target.found?_atSchema _).trans
      (congrArg (Option.map (Schema.revisedPlace .relocated)) (Target.found?_atSchema place).symm)

theorem hasPlace_of_toOption {place : RefOr Schema}
    (h : place ∈ (stepFrom Schema d r).toOption) : d.HasPlace place := by
  cases hstep : stepFrom Schema d r with
  | error e =>
    rw [hstep] at h
    cases h
  | ok found =>
    rw [hstep] at h
    cases h
    exact hasPlace_of_stepFrom hstep

/-- The schemas of a document correspond to what they are once they have moved. -/
theorem IsRelocatable.holds_moved (h : d.IsRelocatable) : Pairing.moved.Holds d d.asDefinitions where
  nodes := Node.congruence_eq
  schema := by
    rintro s _ ⟨hs, rfl⟩
    exact Schema.alongside_moved hs
  text := by
    -- Distinct texts stay distinct.
    rintro r _ q _ ⟨hr, rfl⟩ ⟨hq, rfl⟩
    exact (relocated_eq_iff hr hq).symm
  normalized := by
    rintro r _ ⟨hr, rfl⟩
    obtain ⟨name, hpointer, hpointer'⟩ := hr.exists_pointer
    unfold Ref.normalized Ref.schemaName?
    rw [hpointer, hpointer']
    rfl
  locationOf := by
    rintro r _ l l' ⟨hr, rfl⟩ -
    obtain ⟨name, hpointer, hpointer'⟩ := hr.exists_pointer
    unfold locationOf
    rw [hpointer, hpointer']
    dsimp only
    simp only [Pointer.text_cons, Pointer.text_nil, String.append_empty, ← String.append_assoc]
    exact .inl ⟨Pointer.escape name, rfl, rfl⟩
  append l l' part hl := hl.append part
  step := by
    -- The failures of a step name other texts, so only results are compared.
    rintro r _ ⟨hr, rfl⟩
    refine both_of_rel ?_
    rw [toOption_stepFrom_asDefinitions hr]
    exact rel_map fun place hplace => Pairing.place_moved (h.of_hasPlace (hasPlace_of_toOption hplace))
  cycle _ _ _ := trivial
  unresolved _ _ _ _ _ _ := trivial
  endless := trivial

theorem schemaPlaces_withSchemas (h : d.definitions = []) :
    (d.withSchemas [] d.componentSchemas).schemaPlaces = d.schemaPlaces := by
  have hparameters : (d.withSchemas [] d.componentSchemas).parameterPlaces = d.parameterPlaces := rfl
  have hbodies : (d.withSchemas [] d.componentSchemas).bodyPlaces = d.bodyPlaces := rfl
  have hresponses : (d.withSchemas [] d.componentSchemas).responsePlaces = d.responsePlaces := rfl
  unfold schemaPlaces
  rw [hparameters, hbodies, hresponses, h]
  unfold withSchemas componentSchemas
  dsimp only
  cases d.components with
  | none => rfl
  | some c =>
    rw [List.map_nil, List.append_nil]
    rfl

/-- The same places are there, in the same order. -/
theorem schemaPlaces_asDefinitions (h : d.definitions = []) :
    d.asDefinitions.schemaPlaces = d.schemaPlaces.map (Schema.revisedPlace .relocated) := by
  have hrevised : (d.revised .relocated).definitions = [] := by
    unfold revised
    rw [h]
    rfl
  rw [← schemaPlaces_revised, ← schemaPlaces_withSchemas hrevised]
  rfl

theorem stepsFor_asDefinitions (h : d.definitions = []) (place : RefOr Schema) :
    d.asDefinitions.stepsFor (Schema.revisedPlace .relocated place) = d.stepsFor place := by
  have hnested : d.asDefinitions.nestedSchemas = (d.revised .relocated).nestedSchemas := by
    unfold nestedSchemas
    rw [schemaPlaces_asDefinitions h, schemaPlaces_revised]
  -- How many steps there are depends on the schemas in the document only.
  rw [← stepsFor_revised .relocated d]
  unfold stepsFor
  rw [hnested]

end Document

end ApiShape
