import ApiShape.Document.Resolve
import ApiShape.Proofs.Alongside.Report
import ApiShape.Proofs.Document.Intact
import ApiShape.Proofs.Document.Reading
import ApiShape.Proofs.Source.JsonReader

/-!
# Documents and the texts that they are read from

A pointer that leads to a schema of a document, or to a value of an enum, leads to the place in its JSON
text where that schema or value is written. The parts of a document have the names under which they are
read, so one part after the other agrees with the value that it is read from, from the inside out.
-/

namespace ApiShape

/-! ## Parts that agree with values -/

namespace Target

open Source (States)

variable {once : Prop}

/-- A schema is read from a source of the value that is there, and values of an enum are just there. -/
def Found (once : Prop) (t : Target) (o : Option Json) : Prop :=
  match t with
  | .schema s => ∃ source v, o = some v ∧ States once source v ∧ Schema.read source = .ok (.inline s)
  | .value w => o = some w
  | .values items => o = some (.array items)
  | _ => True

/-- Where a pointer leads from the part, it leads from the value to what the part there is found in. -/
def Agrees (once : Prop) (t : Target) (o : Option Json) : Prop :=
  ∀ segments u, Pointer.follow t segments = .ok u → u.Found once (segments.foldl Json.part? o)

variable {t : Target} {o : Option Json}

/-- The part has to be found in the value, and its parts have to agree with those of the value. -/
theorem agrees_of_step (hfound : t.Found once o)
    (hstep : ∀ segment rest part, Pointer.step t segment rest = .ok part →
      part.Agrees once (Json.part? o segment)) : t.Agrees once o := by
  intro segments u h
  cases segments with
  | nil =>
    cases h
    exact hfound
  | cons segment rest =>
    obtain ⟨part, hpart, h⟩ := Pointer.follow_cons_eq_ok.1 h
    exact hstep segment rest part hpart rest u h

theorem agrees_keyed {parts : Dict Target} (hfound : t.Found once o)
    (hview : Pointee.view t = .keyed parts)
    (hparts : ∀ e ∈ parts, e.2.Agrees once (Json.part? o e.1)) : t.Agrees once o := by
  refine agrees_of_step hfound fun segment rest part hpart => ?_
  rcases Pointer.cases_of_step hpart with ⟨parts', hview', hget⟩ | ⟨_, _, hview', _, _⟩
  · cases hview.symm.trans hview'
    exact hparts _ (Dict.mem_of_get?_eq_some hget)
  · cases hview.symm.trans hview'

theorem agrees_indexed {parts : List Target} (hfound : t.Found once o)
    (hview : Pointee.view t = .indexed parts)
    (hparts : ∀ segment i part, Pointer.index? segment = some i → parts[i]? = some part →
      part.Agrees once (Json.part? o segment)) : t.Agrees once o := by
  refine agrees_of_step hfound fun segment rest part hpart => ?_
  rcases Pointer.cases_of_step hpart with ⟨_, hview', _⟩ | ⟨parts', i, hview', hi, hget⟩
  · cases hview.symm.trans hview'
  · cases hview.symm.trans hview'
    exact hparts segment i part hi hget

/-! ### Parts without schemas -/

theorem agrees_leaf {kind : String} (hfound : t.Found once o) (hview : Pointee.view t = .leaf kind) :
    t.Agrees once o := by
  refine agrees_of_step hfound fun segment rest part hpart => ?_
  rcases Pointer.cases_of_step hpart with ⟨_, hview', _⟩ | ⟨_, _, hview', _⟩
  · cases hview.symm.trans hview'
  · cases hview.symm.trans hview'

theorem agrees_absent : Agrees once .absent o := by
  refine agrees_of_step trivial fun segment rest part hpart => ?_
  cases hpart

theorem agrees_reference (kind : ComponentKind) (r : Ref) : Agrees once (.reference kind r) o :=
  agrees_leaf trivial rfl

/-- A part of a value is the part that the segment leads to in the value. -/
theorem exists_of_step_value {j : Json} {segment : String} {rest : List String}
    (h : Pointer.step (Target.value j) segment rest = .ok t) :
    ∃ w, t = .value w ∧ Json.part? (some j) segment = some w := by
  rcases Pointer.cases_of_step h with ⟨parts, hview, hget⟩ | ⟨parts, i, hview, hi, hget⟩
  · cases j with
    | object fields =>
      cases hview
      have hpart := hget
      change Dict.get? (fields.map fun e => (e.1, Target.value e.2)) segment = some t at hpart
      rw [Dict.get?_map Target.value, Option.map_eq_some_iff] at hpart
      obtain ⟨w, hw, rfl⟩ := hpart
      exact ⟨w, rfl, hw⟩
    | null | bool _ | number _ | string _ | array _ => cases hview
  · cases j with
    | array items =>
      cases hview
      rw [List.getElem?_map, Option.map_eq_some_iff] at hget
      obtain ⟨w, hw, rfl⟩ := hget
      refine ⟨w, rfl, ?_⟩
      rw [Json.part?, hi, Option.bind_some, hw]
    | null | bool _ | number _ | string _ | object _ => cases hview

theorem agrees_value (j : Json) : Agrees once (.value j) (some j) := by
  intro segments u h
  induction segments generalizing j with
  | nil =>
    cases h
    rfl
  | cons segment rest ih =>
    obtain ⟨part, hpart, h⟩ := Pointer.follow_cons_eq_ok.1 h
    obtain ⟨w, rfl, hw⟩ := exists_of_step_value hpart
    rw [List.foldl_cons, hw]
    exact ih w h

theorem agrees_values (items : List Json) : Agrees once (.values items) (some (.array items)) := by
  refine agrees_indexed rfl rfl fun segment i part hi hpart => ?_
  rw [List.getElem?_map, Option.map_eq_some_iff] at hpart
  obtain ⟨j, hj, rfl⟩ := hpart
  rw [Json.part?, hi, Option.bind_some, hj]
  exact agrees_value j

/-! ### Containers and places -/

theorem agrees_ofOption {α : Type} {part : α → Target} {a : Option α}
    (h : ∀ b ∈ a, (part b).Agrees once o) : (ofOption part a).Agrees once o := by
  cases a with
  | none => exact agrees_absent
  | some b => exact h b rfl

theorem agrees_atPlace {α : Type} {kind : ComponentKind} {part : α → Target} {place : RefOr α}
    (h : ∀ a ∈ place.inline?, (part a).Agrees once o) : (atPlace kind part place).Agrees once o := by
  cases place with
  | ref r => exact agrees_reference kind r
  | inline a => exact h a rfl

theorem agrees_entries {α : Type} {part : α → Target} {named : List (String × α)}
    (hfound : t.Found once o) (hview : Pointee.view t = .keyed (entries part named))
    (h : ∀ e ∈ named, (part e.2).Agrees once (Json.part? o e.1)) : t.Agrees once o := by
  refine agrees_keyed hfound hview fun e he => ?_
  obtain ⟨e', he', rfl⟩ := List.mem_map.1 he
  exact h e' he'

theorem agrees_items {α : Type} {part : α → Target} {items : List α}
    (hfound : t.Found once o) (hview : Pointee.view t = .indexed (items.map part))
    (h : ∀ segment i a, Pointer.index? segment = some i → items[i]? = some a →
      (part a).Agrees once (Json.part? o segment)) : t.Agrees once o := by
  refine agrees_indexed hfound hview fun segment i part hi hpart => ?_
  rw [List.getElem?_map, Option.map_eq_some_iff] at hpart
  obtain ⟨a, ha, rfl⟩ := hpart
  exact h segment i a hi ha

end Target

/-! ## Schemas -/

namespace Schema

open Source Target

variable {once : Prop} {source : Source} {v : Json}

/-- All that the source can be read as agrees with the value. -/
structure Readings.Agrees (once : Prop) (r : Readings) (v : Json) : Prop where
  schema : ∀ place ∈ r.schema, (Target.atSchema place).Agrees once (some v)
  list : ∀ places ∈ r.list, (Target.schemaList places).Agrees once (some v)
  dict : ∀ named ∈ r.dict, (Target.schemas named).Agrees once (some v)

theorem source_readings (h : States once source v) : (readings source).source = source := by
  cases h <;> rfl

theorem read_of_readings {place : RefOr Schema} (h : States once source v)
    (hplace : (readings source).schema = some place) : Schema.read source = .ok place := by
  unfold Schema.read
  rw [h.settle]
  dsimp only
  rw [hplace]

/-- The parts of a mapping, read in every way. -/
def readingsOfParts (parts : Dict (Source × Json)) : List (String × Readings) :=
  parts.map fun e => (e.1, readings e.2.1)

theorem named?_readingsEntries (parts : Dict (Source × Json)) :
    named? (readingsEntries (parts.map fun e => (.ofString e.1, e.2.1))) =
      some (readingsOfParts parts) := by
  induction parts with
  | nil => rfl
  | cons e rest ih =>
    unfold named? at ih ⊢
    rw [List.map_cons, readingsEntries, List.mapM_cons, ih]
    rfl

theorem readingsItems_map_fst (parts : List (Source × Json)) :
    readingsItems (parts.map (·.1)) = parts.map fun p => readings p.1 := by
  induction parts with
  | nil => rfl
  | cons p rest ih => rw [List.map_cons, readingsItems, ih, List.map_cons]

section Fields

variable {parts : Dict (Source × Json)} (hstates : ∀ e ∈ parts, States once e.2.1 e.2.2)
  (hparts : ∀ e ∈ parts, (readings e.2.1).Agrees once e.2.2)
  (hknown : (((readingsOfParts parts).map (·.1)).filter fieldNames.contains).Nodup)

include hknown

/-- A field that means something leads to the value of the part of that name. -/
theorem part?_of_known {name : String} {r : Readings} (hname : fieldNames.contains name = true)
    (hr : Dict.get? (readingsOfParts parts) name = some r) :
    ∃ p, (name, p) ∈ parts ∧ r = readings p.1 ∧
      Json.part? (some (Json.ofParts parts)) name = some p.2 := by
  have hkeys : (readingsOfParts parts).map (·.1) = (parts.map fun e => (e.1, e.2.2)).map (·.1) := by
    rw [readingsOfParts, List.map_map, List.map_map]
    rfl
  rw [hkeys] at hknown
  unfold readingsOfParts at hr
  rw [Dict.get?_map fun p : Source × Json => readings p.1, Option.map_eq_some_iff] at hr
  obtain ⟨p, hp, rfl⟩ := hr
  refine ⟨p, Dict.mem_of_get?_eq_some hp, rfl, ?_⟩
  have hget := Dict.get?_ofList_of_known hknown hname
  rw [Dict.get?_map fun p : Source × Json => p.2, hp] at hget
  exact hget

include hparts

/-- A part that is read from a field agrees with the field. -/
theorem agrees_part {α : Type} {part : α → Target} {name : String} {select : Readings → Option α}
    {a : Option α} (hname : fieldNames.contains name = true)
    (hpart : Schema.part (readingsOfParts parts) name select = some a)
    (hselect : ∀ r v b, r.Agrees once v → select r = some b → (part b).Agrees once (some v)) :
    (ofOption part a).Agrees once (Json.part? (some (Json.ofParts parts)) name) := by
  refine agrees_ofOption fun b hb => ?_
  obtain ⟨r, hr, hselected⟩ := exists_of_part hpart b hb
  obtain ⟨p, hp, rfl, hvalue⟩ := part?_of_known hknown hname hr
  rw [hvalue]
  exact hselect _ _ b (hparts _ hp) hselected

omit hparts

include hstates

/-- The enum is the list of values that its field states. -/
theorem agrees_enum {values : Option (List Json)}
    (henum : optionalField (readingsOfParts parts) "enum" (Reader.list Reader.json) = some values) :
    (ofOption Target.values values).Agrees once
      (Json.part? (some (Json.ofParts parts)) "enum") := by
  refine agrees_ofOption fun items hitems => ?_
  cases hitems
  unfold optionalField field at henum
  split at henum
  · cases henum
  · rename_i r hr
    obtain ⟨p, hp, rfl, hvalue⟩ := part?_of_known hknown rfl hr
    have hpart := hstates _ hp
    rw [source_readings hpart] at henum
    have hread := eq_ok_of_toOption henum
    have hitems := Reader.relates_values.optional _ _ _ hpart rfl hread items rfl
    rw [hvalue, hitems]
    exact agrees_values items

include hparts

theorem agrees_inline {s : Schema} (hsource : States once (ofParts parts) (Json.ofParts parts))
    (hread : Schema.read (ofParts parts) = .ok (.inline s))
    (hs : HasParts (readingsOfParts parts) s) :
    (Target.schema s).Agrees once (some (Json.ofParts parts)) := by
  refine agrees_keyed ⟨_, _, rfl, hsource, hread⟩ rfl ?_
  have hlist : ∀ (r : Readings) v places, r.Agrees once v → r.list = some places →
      (Target.schemaList places).Agrees once (some v) :=
    fun r v places hr hplaces => hr.list places hplaces
  simp only [List.forall_mem_cons]
  refine ⟨?_, ?_, ?_, ?_, ?_, ?_, ?_, List.forall_mem_nil _⟩
  · exact agrees_part hparts hknown rfl hs.properties fun r v named hr hnamed => hr.dict named hnamed
  · refine agrees_part hparts hknown rfl hs.additional fun r v additional hr hadditional => ?_
    unfold additionalOf at hadditional
    split at hadditional
    · cases hadditional
      exact agrees_leaf trivial rfl
    · obtain ⟨place, hplace, rfl⟩ := Option.map_eq_some_iff.1 hadditional
      exact hr.schema place hplace
  · exact agrees_part hparts hknown rfl hs.items fun r v place hr hplace => hr.schema place hplace
  · exact agrees_enum hstates hknown hs.enum
  · exact agrees_part hparts hknown rfl hs.allOf hlist
  · exact agrees_part hparts hknown rfl hs.anyOf hlist
  · exact agrees_part hparts hknown rfl hs.oneOf hlist

end Fields

theorem forall₂_of_mapM {parts : Dict (Source × Json)} {named : List (String × RefOr Schema)}
    (hparts : ∀ e ∈ parts, (readings e.2.1).Agrees once e.2.2)
    (hnamed : (readingsOfParts parts).mapM (fun (name, r) => r.schema.map (name, ·)) = some named) :
    List.Forall₂ (fun e f => e.1 = f.1 ∧ (Target.atSchema f.2).Agrees once (some e.2))
      (parts.map fun e => (e.1, e.2.2)) named := by
  induction parts generalizing named with
  | nil =>
    cases hnamed
    exact .nil
  | cons e rest ih =>
    rw [List.forall_mem_cons] at hparts
    unfold readingsOfParts at hnamed ih
    simp only [List.map_cons, List.mapM_cons, Option.bind_eq_bind, Option.bind_eq_some_iff,
      Option.map_eq_some_iff, Option.pure_def, Option.some.injEq] at hnamed
    obtain ⟨f, ⟨place, hplace, rfl⟩, more, hmore, rfl⟩ := hnamed
    exact .cons ⟨rfl, hparts.1.schema place hplace⟩ (ih hparts.2 hmore)

theorem agrees_mapping {parts : Dict (Source × Json)}
    (hsource : States once (ofParts parts) (Json.ofParts parts))
    (hstates : ∀ e ∈ parts, States once e.2.1 e.2.2)
    (hparts : ∀ e ∈ parts, (readings e.2.1).Agrees once e.2.2) :
    (readings (ofParts parts)).Agrees once (Json.ofParts parts) where
  schema place hplace := by
    have hread := read_of_readings hsource hplace
    rw [ofParts, readings, readingsOfMapping, named?_readingsEntries] at hplace
    dsimp only at hplace
    split at hplace
    · cases hplace
      exact agrees_reference _ _
    · obtain ⟨s, hs, rfl⟩ := Option.map_eq_some_iff.1 hplace
      have hs := hasParts_ofFields s hs
      exact agrees_inline hstates hparts hs.known hsource hread hs
  list _ hplaces := by cases hplaces
  dict named hnamed := by
    rw [ofParts, readings, readingsOfMapping, named?_readingsEntries] at hnamed
    simp only [dictOf, Option.bind_eq_bind, Option.bind_some, Option.bind_eq_some_iff,
      Option.pure_def, Option.some.injEq, Option.mem_def] at hnamed
    obtain ⟨entries, hentries, rfl⟩ := hnamed
    refine agrees_entries trivial rfl fun e he => ?_
    -- Of a repeated name both keep the last value.
    have hget := Dict.get?_eq_some_of_mem (Dict.distinct_ofList entries) he
    obtain ⟨w, hw, hagrees⟩ := Dict.get?_ofList_of_forall₂
      (R := fun w place => (Target.atSchema place).Agrees once (some w))
      (forall₂_of_mapM hparts hentries) hget
    have hpart : Json.part? (some (Json.ofParts parts)) e.1 = some w := hw
    rwa [hpart]

theorem agrees_list {parts : List (Source × Json)}
    (hparts : ∀ p ∈ parts, (readings p.1).Agrees once p.2) :
    (readings (.list true (parts.map (·.1)))).Agrees once (.array (parts.map (·.2))) where
  schema place hplace := by
    -- All that a list can be is a reference, whose text is the first item.
    obtain ⟨r, -, rfl⟩ := Option.map_eq_some_iff.1 hplace
    exact agrees_reference _ _
  list places hplaces := by
    refine agrees_items trivial rfl fun segment i place hi hplace => ?_
    rw [readings, readingsItems_map_fst] at hplaces
    obtain ⟨r, hr, hschema⟩ := exists_getElem?_of_mapM hplaces hplace
    rw [List.getElem?_map, Option.map_eq_some_iff] at hr
    obtain ⟨p, hp, rfl⟩ := hr
    rw [Json.part?, hi, Option.bind_some, List.getElem?_map, hp, Option.map_some]
    exact (hparts p (List.mem_of_getElem? hp)).schema place hschema
  dict _ hnamed := by cases hnamed

theorem agrees_scalar (s : Source) (v : Json) : Readings.Agrees once ⟨s, none, none, none⟩ v where
  schema _ h := by cases h
  list _ h := by cases h
  dict _ h := by cases h

theorem agrees_readings (h : States once source v) : (readings source).Agrees once v := by
  induction h with
  | null | bool _ | number _ | string _ => exact agrees_scalar _ _
  | list _ ih => exact agrees_list ih
  | mapping hdistinct hstates ih => exact agrees_mapping (.mapping hdistinct hstates) hstates ih

theorem relates_read :
    Reader.Relates once Schema.read Source.free fun place o =>
      (Target.atSchema place).Agrees once o := by
  intro source v place hstates _ hplace
  unfold Schema.read at hplace
  rw [hstates.settle] at hplace
  dsimp only at hplace
  split at hplace
  · rename_i hschema
    cases hplace
    exact (agrees_readings hstates).schema place hschema
  · cases hplace

end Schema

/-! ## Documents -/

namespace Document

open Reader Reading Source Target

/-- What is sent under a media type is not written as a list. -/
def MediaType.isMapped : Source → Bool :=
  mapped []

/-- No record in a parameter is written as a list. -/
def Parameter.isMapped : Source → Bool :=
  mapped []

/-- No record in the body of a request is written as a list. -/
def RequestBody.isMapped : Source → Bool :=
  mapped [("content", eachPart MediaType.isMapped)]

/-- No record in a response is written as a list. -/
def Response.isMapped : Source → Bool :=
  mapped [("content", eachPart MediaType.isMapped)]

/-- No record in an operation is written as a list. -/
def Operation.isMapped : Source → Bool :=
  mapped [
    ("parameters", eachPart (unlessRef Parameter.isMapped)),
    ("requestBody", unlessRef RequestBody.isMapped),
    ("responses", eachPart (unlessRef Response.isMapped))]

/-- No record in the operations of a path is written as a list. -/
def PathItem.isMapped : Source → Bool :=
  mapped [
    ("get", Operation.isMapped),
    ("put", Operation.isMapped),
    ("post", Operation.isMapped),
    ("delete", Operation.isMapped),
    ("options", Operation.isMapped),
    ("head", Operation.isMapped),
    ("patch", Operation.isMapped),
    ("trace", Operation.isMapped),
    ("parameters", eachPart (unlessRef Parameter.isMapped))]

/-- No record in the named parts of a document is written as a list. -/
def Components.isMapped : Source → Bool :=
  mapped [
    ("responses", eachPart Response.isMapped),
    ("parameters", eachPart Parameter.isMapped),
    ("requestBodies", eachPart RequestBody.isMapped)]

/-- No record in a document is written as a list. Only the records on the way to schemas count. -/
def isMapped : Source → Bool :=
  mapped [
    ("paths", eachPart PathItem.isMapped),
    ("components", Components.isMapped),
    ("parameters", eachPart Parameter.isMapped),
    ("responses", eachPart Response.isMapped)]

variable {once : Prop}

section Fields

variable {names : List String} {conditions : Dict (Source → Bool)} {parts : Dict (Source × Json)}
  {name : String} (hparts : RecordParts once names conditions parts)
  (hname : names.contains name = true)

include hparts hname

theorem gives_schemaField :
    ((recordOfParts names parts).optional name Schema.read).Gives fun place =>
      (ofOption atSchema place).Agrees once (Json.part? (some (Json.ofParts parts)) name) := by
  intro place hplace
  have hfield := Schema.relates_read.optional.field hparts hname (fun b hb => by cases hb)
    (fun _ _ _ => rfl) place hplace
  exact agrees_ofOption hfield

theorem gives_schemasField :
    ((recordOfParts names parts).field name (dict Schema.read) []).Gives fun named =>
      (Target.schemas named).Agrees once (Json.part? (some (Json.ofParts parts)) name) := by
  intro named hnamed
  have hfield := Schema.relates_read.dict.field hparts hname (List.forall_mem_nil _)
    (fun e _ _ => eachPart_free e.2.1) named hnamed
  exact agrees_entries trivial rfl hfield

end Fields

theorem MediaType.relates_read :
    Relates once MediaType.read MediaType.isMapped fun m o => (Target.mediaType m).Agrees once o := by
  refine .record fun parts hparts => ?_
  refine .map (gives_schemaField hparts rfl) ?_
  intro schema hschema
  refine agrees_keyed trivial rfl ?_
  simp only [List.forall_mem_cons]
  exact ⟨hschema, List.forall_mem_nil _⟩

theorem RequestBody.relates_read :
    Relates once RequestBody.read RequestBody.isMapped fun b o => (Target.requestBody b).Agrees once o := by
  refine .record fun parts hparts => ?_
  refine .seq (MediaType.relates_read.dictField hparts rfl rfl) <| .skip <| gives_map ?_
  intro description required content hcontent
  refine agrees_keyed trivial rfl ?_
  simp only [List.forall_mem_cons]
  exact ⟨agrees_entries trivial rfl hcontent, List.forall_mem_nil _⟩

theorem Response.relates_read :
    Relates once Response.read Response.isMapped fun r o => (Target.response r).Agrees once o := by
  refine .record fun parts hparts => ?_
  refine .seq (gives_schemaField hparts rfl) <|
    .seq (MediaType.relates_read.dict.optionalField hparts rfl rfl) <| gives_map ?_
  intro description content hcontent schema hschema
  refine agrees_keyed trivial rfl ?_
  simp only [List.forall_mem_cons]
  refine ⟨?_, hschema, List.forall_mem_nil _⟩
  exact agrees_ofOption fun named hnamed => agrees_entries trivial rfl (hcontent named hnamed)

theorem Parameter.relates_read :
    Relates once Parameter.read Parameter.isMapped fun p o => (Target.parameter p).Agrees once o := by
  refine .record fun parts hparts => ?_
  -- From the last field to the first: of these only the items and the schema hold schemas.
  refine .skip <| .skip <| .seq (gives_schemaField hparts rfl) <| .skip <| .skip <|
    .seq (gives_schemaField hparts rfl) <| .skip <| .skip <| .skip <| .skip <| .skip <| .skip <|
    .skip <| gives_map ?_
  intro name location required deprecated description style explode allowReserved schema hschema
    types format items hitems enum default
  refine agrees_keyed trivial rfl ?_
  simp only [List.forall_mem_cons]
  exact ⟨hschema, hitems, List.forall_mem_nil _⟩

theorem relates_parameters :
    Relates once (list (RefOr.read Parameter.read)) (eachPart (unlessRef Parameter.isMapped))
      fun places o => (Target.parameterList places).Agrees once o := by
  intro s v places hstates hs hread
  refine agrees_items trivial rfl fun segment i place hi hplace => agrees_atPlace ?_
  exact Parameter.relates_read.refOr.list s v places hstates hs hread segment i place hi hplace

theorem agrees_parameterList_nil : (Target.parameterList []).Agrees once none :=
  agrees_items trivial rfl fun segment i place _ hplace => by simp at hplace

theorem Operation.relates_read :
    Relates once Operation.read Operation.isMapped fun op o => (Target.operation op).Agrees once o := by
  refine .openRecord <| .record fun parts hparts => ?_
  refine .skip <| .skip <| .skip <| .skip <|
    .seq (Response.relates_read.refOr.dictField hparts rfl rfl) <|
    .seq (RequestBody.relates_read.refOr.optionalField hparts rfl rfl) <|
    .seq (relates_parameters.mappedField hparts rfl agrees_parameterList_nil rfl) <|
    .skip <| .skip <| .skip <| .skip <| gives_map ?_
  intro operationId summary description deprecated tags parameters hparameters requestBody hbody
    responses hresponses security consumes produces extensions
  refine agrees_keyed trivial rfl ?_
  simp only [List.forall_mem_cons]
  refine ⟨hparameters, ?_, ?_, List.forall_mem_nil _⟩
  · exact agrees_ofOption fun place hplace => agrees_atPlace (hbody place hplace)
  · exact agrees_entries trivial rfl fun e he => agrees_atPlace (hresponses e he)

theorem PathItem.relates_read :
    Relates once PathItem.read PathItem.isMapped fun item o => (Target.pathItem item).Agrees once o := by
  refine .record fun parts hparts => ?_
  refine .seq (relates_parameters.mappedField hparts rfl agrees_parameterList_nil rfl) <|
    .seq (Operation.relates_read.optionalField hparts rfl rfl) <|
    .seq (Operation.relates_read.optionalField hparts rfl rfl) <|
    .seq (Operation.relates_read.optionalField hparts rfl rfl) <|
    .seq (Operation.relates_read.optionalField hparts rfl rfl) <|
    .seq (Operation.relates_read.optionalField hparts rfl rfl) <|
    .seq (Operation.relates_read.optionalField hparts rfl rfl) <|
    .seq (Operation.relates_read.optionalField hparts rfl rfl) <|
    .seq (Operation.relates_read.optionalField hparts rfl rfl) <|
    .skip <| gives_map ?_
  intro summary description get hget put hput post hpost delete hdelete options hoptions head hhead
    patch hpatch trace htrace parameters hparameters
  refine agrees_keyed trivial rfl ?_
  simp only [List.forall_mem_cons]
  exact ⟨agrees_ofOption hget, agrees_ofOption hput, agrees_ofOption hpost,
    agrees_ofOption hdelete, agrees_ofOption hoptions, agrees_ofOption hhead,
    agrees_ofOption hpatch, agrees_ofOption htrace, hparameters, List.forall_mem_nil _⟩

theorem Components.relates_read :
    Relates once Components.read Components.isMapped fun c o => (Target.components c).Agrees once o := by
  refine .record fun parts hparts => ?_
  refine .skip <|
    .seq (RequestBody.relates_read.dictField hparts rfl rfl) <|
    .seq (Parameter.relates_read.dictField hparts rfl rfl) <|
    .seq (Response.relates_read.dictField hparts rfl rfl) <|
    .map (gives_schemasField hparts rfl) ?_
  intro schemas hschemas responses hresponses parameters hparameters requestBodies hbodies
    securitySchemes
  refine agrees_keyed trivial rfl ?_
  simp only [List.forall_mem_cons]
  refine ⟨hschemas, ?_, ?_, ?_, ?_, List.forall_mem_nil _⟩
  · exact agrees_entries trivial rfl hresponses
  · exact agrees_entries trivial rfl hparameters
  · exact agrees_entries trivial rfl hbodies
  · exact agrees_entries trivial rfl fun e _ => agrees_leaf trivial rfl

theorem relates_document :
    Relates once Document.read Document.isMapped fun d o => (Target.document d).Agrees once o := by
  refine .record fun parts hparts => ?_
  refine .skip <| .skip <| .skip <| .skip <|
    .seq (Response.relates_read.dictField hparts rfl rfl) <|
    .seq (Parameter.relates_read.dictField hparts rfl rfl) <|
    .seq (gives_schemasField hparts rfl) <|
    .seq (Components.relates_read.optionalField hparts rfl rfl) <|
    .seq (PathItem.relates_read.dictField hparts rfl rfl) <|
    .skip <| .skip <| gives_map ?_
  intro openapi swagger info paths hpaths components hcomponents definitions hdefinitions parameters
    hparameters responses hresponses securityDefinitions security consumes produces
  refine agrees_keyed trivial rfl ?_
  simp only [List.forall_mem_cons]
  refine ⟨?_, agrees_ofOption hcomponents, hdefinitions, ?_, ?_, ?_, List.forall_mem_nil _⟩
  · exact agrees_entries trivial rfl hpaths
  · exact agrees_entries trivial rfl hparameters
  · exact agrees_entries trivial rfl hresponses
  · exact agrees_entries trivial rfl fun e _ => agrees_leaf trivial rfl

/-- What a document is read from holds its schemas where they lie in the document. -/
theorem relates_read (j : Json) (d : Document) (hdistinct : j.source.distinctKeys = true)
    (hmapped : Document.isMapped j.source = true) (hread : Document.read j.source = .ok d)
    (segments : List String) (s : Schema)
    (hs : Pointer.follow (Target.document d) segments = .ok (.schema s)) :
    ∃ v, segments.foldl Json.part? (some j) = some v ∧ Schema.read v.source = .ok (.inline s) := by
  have hstates : States True j.source j := states_source j hdistinct
  obtain ⟨source, v, hv, hsource, hschema⟩ :=
    relates_document j.source j d hstates hmapped hread segments _ hs
  rw [hsource.eq_source] at hschema
  exact ⟨v, hv, hschema⟩

end Document

end ApiShape
