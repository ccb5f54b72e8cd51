import ApiShape.Document.Reader
import ApiShape.Proofs.Document.DistinctNames
import ApiShape.Proofs.Source.Reader

/-!
# Documents that are read

Dictionaries are read with every key once, so no schema of a document that is read declares a property
twice.
-/

namespace ApiShape

open Reader Reading

/-! ## Schemas -/

namespace Schema

/-- No way to read the source gives a schema that declares a property twice. -/
structure Readings.Distinct (r : Readings) : Prop where
  schema : ∀ place ∈ r.schema, DistinctNames place
  list : ∀ places ∈ r.list, ∀ place ∈ places, DistinctNames place
  dict : ∀ named ∈ r.dict, Dict.Distinct named ∧ ∀ e ∈ named, DistinctNames e.2

variable {fields : List (String × Readings)} {s : Schema}

theorem distinctNames_ref (r : Ref) : DistinctNames (.ref r) := by
  intro s hs
  rw [nestedPlace] at hs
  cases hs

/-- It is enough that the schema declares no property twice and that no schema right inside does. -/
theorem distinctNames_inline (hs : Dict.Distinct (s.properties.getD []))
    (hparts : ∀ place ∈ s.parts, DistinctNames place) : DistinctNames (.inline s) := by
  intro t ht
  rw [mem_nestedPlace_inline, mem_nested_iff] at ht
  rcases ht with rfl | ⟨place, hplace, ht⟩
  · exact hs
  · exact hparts place hplace t ht

theorem exists_of_part {α : Type} {name : String} {select : Readings → Option α} {a : Option α}
    (h : part fields name select = some a) :
    ∀ x ∈ a, ∃ r, Dict.get? fields name = some r ∧ select r = some x := by
  intro x hx
  unfold part at h
  split at h
  · cases h
    cases hx
  · rename_i r hr
    split at h
    · cases h
      cases hx
    · obtain ⟨y, hy, rfl⟩ := Option.map_eq_some_iff.1 h
      cases hx
      exact ⟨r, hr, hy⟩

/-- A condition on what a sequence of two steps gives, if both succeed. -/
theorem forall_mem_bind {α β : Type} {x : Option α} {f : α → Option β} {P : β → Prop}
    (h : ∀ a ∈ x, ∀ b ∈ f a, P b) : ∀ b ∈ x >>= f, P b := by
  intro b hb
  obtain ⟨a, ha, hb⟩ := Option.bind_eq_some_iff.1 hb
  exact h a ha b hb

/-- The schema has the schemas and the enum that its fields give, and no field that means something is
repeated. -/
structure HasParts (fields : List (String × Readings)) (s : Schema) : Prop where
  known : ((fields.map (·.1)).filter fieldNames.contains).Nodup
  properties : part fields "properties" (·.dict) = some s.properties
  additional : part fields "additionalProperties" additionalOf = some s.additional
  items : part fields "items" (·.schema) = some s.items
  enum : optionalField fields "enum" (Reader.list Reader.json) = some s.enum
  allOf : part fields "allOf" (·.list) = some s.allOf
  anyOf : part fields "anyOf" (·.list) = some s.anyOf
  oneOf : part fields "oneOf" (·.list) = some s.oneOf

theorem hasParts_ofFields : ∀ s ∈ ofFields fields, HasParts fields s := by
  unfold ofFields
  split
  · exact fun s hs => by cases hs
  rename_i hknown
  rw [not_not] at hknown
  -- Field by field, in the order in which the schema has them.
  refine forall_mem_bind fun types _ => forall_mem_bind fun format _ => forall_mem_bind fun title _ =>
    forall_mem_bind fun description _ => forall_mem_bind fun deprecated _ =>
    forall_mem_bind fun nullable _ => forall_mem_bind fun default _ =>
    forall_mem_bind fun minimum _ => forall_mem_bind fun maximum _ =>
    forall_mem_bind fun exclusiveMinimum _ => forall_mem_bind fun exclusiveMaximum _ =>
    forall_mem_bind fun minLength _ => forall_mem_bind fun maxLength _ =>
    forall_mem_bind fun pattern _ => forall_mem_bind fun minItems _ =>
    forall_mem_bind fun maxItems _ => forall_mem_bind fun readOnly _ =>
    forall_mem_bind fun writeOnly _ => forall_mem_bind fun properties hproperties =>
    forall_mem_bind fun required _ => forall_mem_bind fun additional hadditional =>
    forall_mem_bind fun items hitems => forall_mem_bind fun enum henum =>
    forall_mem_bind fun const _ => forall_mem_bind fun allOf hallOf =>
    forall_mem_bind fun anyOf hanyOf => forall_mem_bind fun oneOf honeOf =>
    forall_mem_bind fun discriminator _ => forall_mem_bind fun extensions _ => ?_
  rintro s ⟨⟩
  exact ⟨hknown, hproperties, hadditional, hitems, henum, hallOf, hanyOf, honeOf⟩

theorem distinctNames_ofFields (hfields : ∀ e ∈ fields, e.2.Distinct) :
    ∀ s ∈ ofFields fields, DistinctNames (.inline s) := by
  intro s hs
  obtain ⟨-, hproperties, hadditional, hitems, -, hallOf, hanyOf, honeOf⟩ := hasParts_ofFields s hs
  have hread : ∀ {name : String} {r : Readings}, Dict.get? fields name = some r → r.Distinct :=
    fun hr => hfields _ (Dict.mem_of_get?_eq_some hr)
  -- The schemas of a field are those that its readings give.
  have hdict : Dict.Distinct (s.properties.getD []) ∧
      ∀ e ∈ s.properties.getD [], DistinctNames e.2 := by
    cases hsome : s.properties with
    | none => exact ⟨List.nodup_nil, fun e he => by cases he⟩
    | some named =>
      rw [hsome] at hproperties
      obtain ⟨r, hr, hnamed⟩ := exists_of_part hproperties named rfl
      exact (hread hr).dict named hnamed
  have hlist : ∀ {name : String} {places : Option (List (RefOr Schema))},
      part fields name (·.list) = some places → ∀ place ∈ places.getD [], DistinctNames place := by
    intro name places hplaces place hplace
    cases places with
    | none => cases hplace
    | some places =>
      obtain ⟨r, hr, hplaces⟩ := exists_of_part hplaces places rfl
      exact (hread hr).list places hplaces place hplace
  apply distinctNames_inline hdict.1
  intro place hplace
  simp only [parts, List.mem_append] at hplace
  rcases hplace with ((((hplace | hplace) | hplace) | hplace) | hplace) | hplace
  · obtain ⟨e, he, rfl⟩ := List.mem_map.1 hplace
    exact hdict.2 e he
  · split at hplace
    · rename_i a hsome
      obtain ⟨r, hr, ha⟩ := exists_of_part hadditional _ hsome
      rw [List.mem_singleton.1 hplace]
      unfold additionalOf at ha
      split at ha
      · cases ha
      · obtain ⟨b, hb, hab⟩ := Option.map_eq_some_iff.1 ha
        cases hab
        exact (hread hr).schema a hb
    · cases hplace
  · obtain ⟨r, hr, hitem⟩ := exists_of_part hitems place (Option.mem_toList.1 hplace)
    exact (hread hr).schema place hitem
  · exact hlist hallOf place hplace
  · exact hlist hanyOf place hplace
  · exact hlist honeOf place hplace

theorem exists_getElem?_of_mapM {α β : Type} {f : α → Option β} {as : List α} {bs : List β}
    (h : as.mapM f = some bs) {i : Nat} {b : β} (hb : bs[i]? = some b) :
    ∃ a, as[i]? = some a ∧ f a = some b := by
  induction as generalizing bs i with
  | nil =>
    rw [List.mapM_nil] at h
    cases h
    cases hb
  | cons a rest ih =>
    simp only [List.mapM_cons, Option.bind_eq_bind, Option.bind_eq_some_iff, Option.pure_def,
      Option.some.injEq] at h
    obtain ⟨b', hb', bs, hbs, rfl⟩ := h
    cases i with
    | zero =>
      cases hb
      exact ⟨a, rfl, hb'⟩
    | succ i => exact ih hbs hb

theorem forall_mem_of_mapM {α β : Type} {f : α → Option β} {as : List α} {bs : List β}
    (h : as.mapM f = some bs) : ∀ b ∈ bs, ∃ a ∈ as, f a = some b := by
  intro b hb
  obtain ⟨i, hi⟩ := List.mem_iff_getElem?.1 hb
  obtain ⟨a, ha, hf⟩ := exists_getElem?_of_mapM h hi
  exact ⟨a, List.mem_of_getElem? ha, hf⟩

theorem distinct_readingsOfList {items : List Source} {parts : List Readings}
    (h : ∀ r ∈ parts, r.Distinct) : (readingsOfList items parts).Distinct where
  schema place hplace := by
    obtain ⟨r, -, rfl⟩ := Option.map_eq_some_iff.1 hplace
    exact distinctNames_ref r
  list places hplaces place hplace := by
    obtain ⟨r, hr, hschema⟩ := forall_mem_of_mapM hplaces place hplace
    exact (h r hr).schema place hschema
  dict _ hnamed := by cases hnamed

theorem distinct_readingsOfMapping {entries : List (Leaf × Source)} {parts : List (Leaf × Readings)}
    (h : ∀ e ∈ parts, e.2.Distinct) : (readingsOfMapping entries parts).Distinct where
  schema place hplace := by
    simp only [readingsOfMapping] at hplace
    split at hplace
    · cases hplace
      exact distinctNames_ref _
    · obtain ⟨s, hs, rfl⟩ := Option.map_eq_some_iff.1 hplace
      obtain ⟨fields, hfields, hs⟩ := Option.bind_eq_some_iff.1 hs
      refine distinctNames_ofFields (fun e he => ?_) s hs
      obtain ⟨⟨k, r⟩, hr, hwritten⟩ := forall_mem_of_mapM hfields e he
      obtain ⟨name, -, rfl⟩ := Option.map_eq_some_iff.1 hwritten
      exact h _ hr
  list _ hplaces := by cases hplaces
  dict named hnamed := by
    obtain ⟨fields, hfields, hnamed⟩ := Option.bind_eq_some_iff.1 hnamed
    simp only [dictOf, Option.bind_eq_bind, Option.bind_eq_some_iff, Option.pure_def,
      Option.some.injEq] at hnamed
    obtain ⟨entries, hentries, rfl⟩ := hnamed
    refine ⟨Dict.distinct_ofList entries, fun e he => ?_⟩
    obtain ⟨⟨name, r⟩, hr, hschema⟩ := forall_mem_of_mapM hentries e (Dict.mem_ofList he)
    obtain ⟨place, hplace, rfl⟩ := Option.map_eq_some_iff.1 hschema
    obtain ⟨⟨k, r'⟩, hr', hwritten⟩ := forall_mem_of_mapM hfields _ hr
    obtain ⟨_, -, hsame⟩ := Option.map_eq_some_iff.1 hwritten
    cases hsame
    exact (h _ hr').schema place hplace

theorem distinct_readingsOfScalar (s : Source) : Readings.Distinct ⟨s, none, none, none⟩ where
  schema _ h := by cases h
  list _ h := by cases h
  dict _ h := by cases h

mutual

theorem distinct_readings : (s : Source) → (readings s).Distinct
  | .list _ items => distinct_readingsOfList (distinct_readingsItems items)
  | .mapping entries => distinct_readingsOfMapping (distinct_readingsEntries entries)
  | .leaf _ | .unreadable | .broken => distinct_readingsOfScalar _

theorem distinct_readingsItems : (items : List Source) → ∀ r ∈ readingsItems items, r.Distinct
  | [], _, h => by cases h
  | s :: rest, r, h => by
    rcases List.mem_cons.1 h with rfl | h
    · exact distinct_readings s
    · exact distinct_readingsItems rest r h

theorem distinct_readingsEntries :
    (entries : List (Leaf × Source)) → ∀ e ∈ readingsEntries entries, e.2.Distinct
  | [], _, h => by cases h
  | (k, s) :: rest, e, h => by
    rcases List.mem_cons.1 h with rfl | h
    · exact distinct_readings s
    · exact distinct_readingsEntries rest e h

end

/-- No schema that is read declares a property twice. -/
theorem gives_read : Gives Schema.read DistinctNames := by
  intro source place h
  unfold Schema.read at h
  split at h
  · cases h
  · cases h
  · rename_i s _
    split at h
    · rename_i schema hschema
      cases h
      exact (distinct_readings s).schema _ hschema
    · cases h

end Schema

/-! ## Documents -/

namespace Document

theorem gives_refOr {α : Type} {read : Reader α} {P : α → Prop} (h : read.Gives P) :
    Gives (RefOr.read read) fun place => ∀ a ∈ place.inline?, P a := by
  intro source place hplace a ha
  unfold RefOr.read at hplace
  split at hplace
  · cases hplace
  · cases hplace
  · split at hplace
    · cases hplace
      cases ha
    · rename_i b hb
      cases hplace
      cases ha
      exact h _ a hb
    · cases hplace

/-- No schema in the parameter declares a property twice. -/
def Parameter.DistinctNames (p : Parameter) : Prop :=
  ∀ place ∈ p.places, Schema.DistinctNames place

theorem Parameter.gives_read : Gives Parameter.read Parameter.DistinctNames := by
  refine gives_record fun r => ?_
  -- From the last field to the first: of these only the items and the schema hold schemas.
  refine .skip <| .skip <| .seq (Schema.gives_read.optionalField r _) <| .skip <| .skip <|
    .seq (Schema.gives_read.optionalField r _) <| .skip <| .skip <| .skip <| .skip <| .skip <|
    .skip <| .skip <| gives_map ?_
  intro name location required deprecated description style explode allowReserved schema hschema
    types format items hitems enum default place hplace
  rcases List.mem_append.1 hplace with hplace | hplace
  · exact hschema place (Option.mem_toList.1 hplace)
  · exact hitems place (Option.mem_toList.1 hplace)

theorem MediaType.gives_read :
    Gives MediaType.read fun m => ∀ place ∈ m.schema, Schema.DistinctNames place := by
  refine gives_record fun r => ?_
  exact .map (Schema.gives_read.optionalField r _) fun _ h => h

/-- No schema in what is sent under media types declares a property twice. -/
def DistinctContent (content : List (String × MediaType)) : Prop :=
  ∀ e ∈ content, ∀ place ∈ e.2.schema, Schema.DistinctNames place

theorem DistinctContent.of_mem_contentPlaces {content : List (String × MediaType)}
    (h : DistinctContent content) : ∀ place ∈ contentPlaces content, Schema.DistinctNames place := by
  intro place hplace
  obtain ⟨e, he, hplace⟩ := List.mem_flatMap.1 hplace
  exact h e he place (Option.mem_toList.1 hplace)

theorem RequestBody.gives_read :
    Gives RequestBody.read fun b => DistinctContent b.content := by
  refine gives_record fun r => ?_
  refine .seq (MediaType.gives_read.dict.field (fun e he => by cases he) r _) <| .skip <|
    gives_map ?_
  exact fun _ _ _ h => h

/-- No schema in the response declares a property twice. -/
def Response.DistinctNames (r : Response) : Prop :=
  ∀ place ∈ r.places, Schema.DistinctNames place

theorem Response.gives_read : Gives Response.read Response.DistinctNames := by
  refine gives_record fun r => ?_
  refine .seq (Schema.gives_read.optionalField r _) <|
    .seq (MediaType.gives_read.dict.optionalField r _) <| gives_map ?_
  intro description content hcontent schema hschema place hplace
  rcases List.mem_append.1 hplace with hplace | hplace
  · cases content with
    | none => cases hplace
    | some content =>
      exact DistinctContent.of_mem_contentPlaces (hcontent content rfl) place hplace
  · exact hschema place (Option.mem_toList.1 hplace)

/-- No schema in the parameters that stand at the places declares a property twice. -/
def DistinctParameters (places : List (RefOr Parameter)) : Prop :=
  ∀ place ∈ places, ∀ p ∈ place.inline?, p.DistinctNames

theorem gives_parameters :
    Gives (list (RefOr.read Parameter.read)) DistinctParameters :=
  (gives_refOr Parameter.gives_read).list

/-- No schema in the operation declares a property twice. -/
structure Operation.DistinctNames (o : Operation) : Prop where
  parameters : DistinctParameters o.parameters
  requestBody : ∀ place ∈ o.requestBody, ∀ b ∈ place.inline?, DistinctContent b.content
  responses : ∀ e ∈ o.responses, ∀ r ∈ e.2.inline?, r.DistinctNames

theorem Operation.gives_read : Gives Operation.read Operation.DistinctNames := by
  refine gives_openRecord fun r => ?_
  refine .skip <| .skip <| .skip <| .skip <|
    .seq ((gives_refOr Response.gives_read).dict.field (fun e he => by cases he) r _) <|
    .seq ((gives_refOr RequestBody.gives_read).optionalField r _) <|
    .seq (gives_parameters.field (fun p hp => by cases hp) r _) <|
    .skip <| .skip <| .skip <| .skip <| gives_map ?_
  intro operationId summary description deprecated tags parameters hparameters requestBody hbody
    responses hresponses security consumes produces extensions
  exact ⟨hparameters, hbody, hresponses⟩

/-- No schema in the path declares a property twice. -/
structure PathItem.DistinctNames (item : PathItem) : Prop where
  parameters : DistinctParameters item.parameters
  operation : ∀ m, ∀ o ∈ item.operation? m, o.DistinctNames

theorem PathItem.gives_read : Gives PathItem.read PathItem.DistinctNames := by
  refine gives_record fun r => ?_
  have hoperation := Operation.gives_read.optionalField r
  refine .seq (gives_parameters.field (fun p hp => by cases hp) r _) <|
    .seq (hoperation _) <| .seq (hoperation _) <| .seq (hoperation _) <| .seq (hoperation _) <|
    .seq (hoperation _) <| .seq (hoperation _) <| .seq (hoperation _) <| .seq (hoperation _) <|
    .skip <| gives_map ?_
  intro summary description get hget put hput post hpost delete hdelete options hoptions head hhead
    patch hpatch trace htrace parameters hparameters
  refine ⟨hparameters, fun m o ho => ?_⟩
  cases m with
  | get => exact hget o ho
  | put => exact hput o ho
  | post => exact hpost o ho
  | delete => exact hdelete o ho
  | options => exact hoptions o ho
  | head => exact hhead o ho
  | patch => exact hpatch o ho
  | trace => exact htrace o ho

/-- No schema in the named parts declares a property twice. -/
structure Components.DistinctNames (c : Components) : Prop where
  schemas : ∀ e ∈ c.schemas, Schema.DistinctNames e.2
  responses : ∀ e ∈ c.responses, e.2.DistinctNames
  parameters : ∀ e ∈ c.parameters, e.2.DistinctNames
  requestBodies : ∀ e ∈ c.requestBodies, DistinctContent e.2.content

theorem Components.gives_read : Gives Components.read Components.DistinctNames := by
  refine gives_record fun r => ?_
  refine .skip <|
    .seq (RequestBody.gives_read.dict.field (fun e he => by cases he) r _) <|
    .seq (Parameter.gives_read.dict.field (fun e he => by cases he) r _) <|
    .seq (Response.gives_read.dict.field (fun e he => by cases he) r _) <|
    .map (Schema.gives_read.dict.field (fun e he => by cases he) r _) ?_
  intro schemas hschemas responses hresponses parameters hparameters requestBodies hbodies
    securitySchemes
  exact ⟨hschemas, hresponses, hparameters, hbodies⟩

theorem forall_mem_inlineValues {α : Type} {P : α → Prop} {places : List (RefOr α)}
    (h : ∀ place ∈ places, ∀ a ∈ place.inline?, P a) : ∀ a ∈ inlineValues places, P a := by
  intro a ha
  obtain ⟨place, hplace, ha⟩ := List.mem_filterMap.1 ha
  exact h place hplace a ha

theorem Components.distinctNames_empty : Components.DistinctNames {} :=
  ⟨by simp, by simp, by simp, by simp⟩

/-- A document declares no property twice if none of its parts does. -/
theorem distinctNames_of_parts {d : Document} (hpaths : ∀ e ∈ d.paths, e.2.DistinctNames)
    (hcomponents : ∀ c ∈ d.components, c.DistinctNames)
    (hdefinitions : ∀ e ∈ d.definitions, Schema.DistinctNames e.2)
    (hparameters : ∀ e ∈ d.parameters, e.2.DistinctNames)
    (hresponses : ∀ e ∈ d.responses, e.2.DistinctNames) : d.DistinctNames := by
  obtain ⟨hcschemas, hcresponses, hcparameters, hcbodies⟩ :
      (d.components.getD {}).DistinctNames := by
    cases hc : d.components with
    | none => exact Components.distinctNames_empty
    | some c => exact hcomponents c hc
  have hoperations : ∀ e ∈ d.paths, ∀ o ∈ e.2.operations, o.2.DistinctNames := by
    intro e he o ho
    obtain ⟨m, -, hm⟩ := List.mem_filterMap.1 ho
    obtain ⟨o', ho', rfl⟩ := Option.map_eq_some_iff.1 hm
    exact (hpaths e he).operation m o' ho'
  have hparameterPlaces : DistinctParameters d.parameterPlaces := by
    simp only [DistinctParameters, parameterPlaces, List.forall_mem_flatMap,
      List.forall_mem_append]
    exact fun e he => ⟨(hpaths e he).parameters, fun o ho => (hoperations e he o ho).parameters⟩
  have hbodyPlaces : ∀ place ∈ d.bodyPlaces, ∀ b ∈ place.inline?, DistinctContent b.content := by
    simp only [bodyPlaces, List.forall_mem_flatMap, Option.mem_toList]
    exact fun e he o ho => (hoperations e he o ho).requestBody
  have hresponsePlaces : ∀ place ∈ d.responsePlaces, ∀ r ∈ place.inline?, r.DistinctNames := by
    simp only [responsePlaces, List.forall_mem_flatMap, List.forall_mem_map]
    exact fun e he o ho => (hoperations e he o ho).responses
  suffices hplaces : ∀ place ∈ d.schemaPlaces, Schema.DistinctNames place by
    simp only [DistinctNames, nestedSchemas, List.forall_mem_flatMap]
    exact hplaces
  simp only [schemaPlaces, List.forall_mem_append, List.forall_mem_flatMap, List.forall_mem_map]
  refine ⟨⟨⟨⟨hcschemas, hdefinitions⟩, ⟨hcparameters, hparameters⟩, ?_⟩, ?_, ?_⟩,
    ⟨hcresponses, hresponses⟩, ?_⟩
  · exact forall_mem_inlineValues hparameterPlaces
  · exact fun e he => (hcbodies e he).of_mem_contentPlaces
  · exact fun b hb => (forall_mem_inlineValues hbodyPlaces b hb).of_mem_contentPlaces
  · exact forall_mem_inlineValues hresponsePlaces

/-- No schema of a document that is read declares a property twice. -/
theorem gives_read : Gives Document.read Document.DistinctNames := by
  refine gives_record fun r => ?_
  refine .skip <| .skip <| .skip <| .skip <|
    .seq (Response.gives_read.dict.field (fun e he => by cases he) r _) <|
    .seq (Parameter.gives_read.dict.field (fun e he => by cases he) r _) <|
    .seq (Schema.gives_read.dict.field (fun e he => by cases he) r _) <|
    .seq (Components.gives_read.optionalField r _) <|
    .seq (PathItem.gives_read.dict.field (fun e he => by cases he) r _) <|
    .skip <| .skip <| gives_map ?_
  intro openapi swagger info paths hpaths components hcomponents definitions hdefinitions parameters
    hparameters responses hresponses securityDefinitions security consumes produces
  exact distinctNames_of_parts hpaths hcomponents hdefinitions hparameters hresponses

/-- No path of a document that is read is there twice. -/
theorem gives_distinct_paths : Gives Document.read fun d => Dict.Distinct d.paths := by
  refine gives_record fun r => ?_
  have hempty : Dict.Distinct ([] : Dict PathItem) := List.nodup_nil
  refine .skip <| .skip <| .skip <| .skip <| .skip <| .skip <| .skip <| .skip <|
    .seq ((gives_distinct PathItem.read).field hempty r _) <|
    .skip <| .skip <| gives_map ?_
  intro openapi swagger info paths hpaths components definitions parameters responses
    securityDefinitions security consumes produces
  exact hpaths

end Document

end ApiShape
