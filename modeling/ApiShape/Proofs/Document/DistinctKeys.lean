import ApiShape.Proofs.Document.Reading

/-!
# Distinct keys on the way to schemas

The dictionaries of a document that lead to schemas, apart from the properties of schemas, have every
key once if the document is read. So what a key leads to is what stands under the key.
-/

namespace ApiShape

theorem Dict.distinct_nil {α : Type} : Dict.Distinct ([] : Dict α) :=
  List.nodup_nil

namespace Document

open Reader Reading

/-- What is sent as the response has every media type once. -/
def Response.Keyed (r : Response) : Prop :=
  ∀ content ∈ r.content, Dict.Distinct content

/-- What stands right in the operation has every media type once, and every code once. -/
structure Operation.Keyed (o : Operation) : Prop where
  requestBody : ∀ place ∈ o.requestBody, ∀ b ∈ place.inline?, Dict.Distinct b.content
  codes : Dict.Distinct o.responses
  responses : ∀ e ∈ o.responses, ∀ r ∈ e.2.inline?, r.Keyed

/-- Every operation of the path has its keys once. -/
def PathItem.Keyed (item : PathItem) : Prop :=
  ∀ m, ∀ o ∈ item.operation? m, o.Keyed

/-- Every path, every named schema, and every key in an operation is there once. -/
structure Keyed (d : Document) : Prop where
  paths : Dict.Distinct d.paths
  items : ∀ e ∈ d.paths, e.2.Keyed
  components : ∀ c ∈ d.components, Dict.Distinct c.schemas
  definitions : Dict.Distinct d.definitions

theorem RequestBody.gives_keyed : Gives RequestBody.read fun b => Dict.Distinct b.content := by
  refine gives_record fun r => ?_
  refine .seq ((gives_distinct MediaType.read).field Dict.distinct_nil r _) <| .skip <| gives_map ?_
  exact fun _ _ content hcontent => hcontent

theorem Response.gives_keyed : Gives Response.read Response.Keyed := by
  refine gives_record fun r => ?_
  refine .skip <| .seq ((gives_distinct MediaType.read).optionalField r _) <| gives_map ?_
  exact fun _ content hcontent _ => hcontent

theorem Operation.gives_keyed : Gives Operation.read Operation.Keyed := by
  refine gives_openRecord fun r => ?_
  have hresponse := gives_refOr Response.gives_keyed
  have hresponses : Gives (dict (RefOr.read Response.read)) fun named =>
      Dict.Distinct named ∧ ∀ e ∈ named, ∀ r ∈ e.2.inline?, r.Keyed :=
    fun s named h => ⟨gives_distinct _ s named h, hresponse.dict s named h⟩
  refine .skip <| .skip <| .skip <| .skip <|
    .seq (hresponses.field ⟨Dict.distinct_nil, List.forall_mem_nil _⟩ r _) <|
    .seq ((gives_refOr RequestBody.gives_keyed).optionalField r _) <|
    .skip <| .skip <| .skip <| .skip <| .skip <| gives_map ?_
  intro operationId summary description deprecated tags parameters requestBody hbody
    responses hresponses security consumes produces extensions
  exact ⟨hbody, hresponses.1, hresponses.2⟩

theorem PathItem.gives_keyed : Gives PathItem.read PathItem.Keyed := by
  refine gives_record fun r => ?_
  have hoperation := Operation.gives_keyed.optionalField r
  refine .skip <| .seq (hoperation _) <| .seq (hoperation _) <| .seq (hoperation _) <|
    .seq (hoperation _) <| .seq (hoperation _) <| .seq (hoperation _) <| .seq (hoperation _) <|
    .seq (hoperation _) <| .skip <| gives_map ?_
  intro summary description get hget put hput post hpost delete hdelete options hoptions head hhead
    patch hpatch trace htrace parameters m o ho
  cases m with
  | get => exact hget o ho
  | put => exact hput o ho
  | post => exact hpost o ho
  | delete => exact hdelete o ho
  | options => exact hoptions o ho
  | head => exact hhead o ho
  | patch => exact hpatch o ho
  | trace => exact htrace o ho

theorem Components.gives_keyed : Gives Components.read fun c => Dict.Distinct c.schemas := by
  refine gives_record fun r => ?_
  refine .skip <| .skip <| .skip <| .skip <|
    .map ((gives_distinct Schema.read).field Dict.distinct_nil r _) ?_
  exact fun schemas hschemas _ _ _ _ => hschemas

/-- A document that is read has every key once on the way to its schemas. -/
theorem gives_keyed : Gives Document.read Keyed := by
  refine gives_record fun r => ?_
  have hpaths : Gives (dict PathItem.read) fun named =>
      Dict.Distinct named ∧ ∀ e ∈ named, e.2.Keyed :=
    fun s named h => ⟨gives_distinct _ s named h, PathItem.gives_keyed.dict s named h⟩
  refine .skip <| .skip <| .skip <| .skip <| .skip <| .skip <|
    .seq ((gives_distinct Schema.read).field Dict.distinct_nil r _) <|
    .seq (Components.gives_keyed.optionalField r _) <|
    .seq (hpaths.field ⟨Dict.distinct_nil, List.forall_mem_nil _⟩ r _) <|
    .skip <| .skip <| gives_map ?_
  intro openapi swagger info paths hpaths components hcomponents definitions hdefinitions parameters
    responses securityDefinitions security consumes produces
  exact ⟨hpaths.1, hpaths.2, hcomponents, hdefinitions⟩

end Document

end ApiShape
