import ApiShape.Proofs.Document.Definitions

/-!
# References to other parts than schemas

Parameters, request bodies and responses do not move with the schemas of a document. A reference to one
never leads through a schema, so it leads to the same part, with the references to schemas in it changed.
-/

namespace ApiShape

/-! ## Parts of schemas -/

namespace Target

variable {t t' : Target}

/-- The part is a schema, lies in one, or holds nothing but schemas. -/
def isSchematic : Target → Bool
  | .schema _ | .reference .schema _ | .additionalFlag _ | .value _ | .schemas _ | .schemaList _
  | .values _ | .absent => true
  | _ => false

theorem isSchematic_ofOption {α : Type} {part : α → Target} (h : ∀ a, (part a).isSchematic = true)
    (a : Option α) : (ofOption part a).isSchematic = true := by
  cases a with
  | none => rfl
  | some a => exact h a

theorem isSchematic_atSchema (place : RefOr Schema) : (atSchema place).isSchematic = true := by
  cases place <;> rfl

/-- Whatever such a part shows is such a part. -/
theorem isSchematic_of_shown (ht : t.isSchematic = true) (h : t' ∈ t.shown) :
    t'.isSchematic = true := by
  cases t with
  | schema s =>
    simp only [shown, view, Dict.values, List.map_cons, List.map_nil, List.mem_cons,
      List.not_mem_nil, or_false] at h
    rcases h with rfl | rfl | rfl | rfl | rfl | rfl | rfl
    · exact isSchematic_ofOption (fun _ => rfl) _
    · refine isSchematic_ofOption (fun additional => ?_) _
      cases additional with
      | flag b => rfl
      | schema place => exact isSchematic_atSchema place
    · exact isSchematic_ofOption isSchematic_atSchema _
    all_goals exact isSchematic_ofOption (fun _ => rfl) _
  | schemas named =>
    obtain ⟨place, _, rfl⟩ := mem_values_entries.1 h
    exact isSchematic_atSchema place
  | schemaList places =>
    obtain ⟨place, _, rfl⟩ := List.mem_map.1 h
    exact isSchematic_atSchema place
  | values items =>
    obtain ⟨j, _, rfl⟩ := List.mem_map.1 h
    rfl
  | value j =>
    unfold shown at h
    rw [view] at h
    cases hview : Pointee.view j with
    | keyed fields =>
      rw [hview] at h
      obtain ⟨_, _, rfl⟩ := mem_values_entries.1 h
      rfl
    | indexed items =>
      rw [hview] at h
      obtain ⟨_, _, rfl⟩ := List.mem_map.1 h
      rfl
    | leaf kind =>
      rw [hview] at h
      cases h
    | absent =>
      rw [hview] at h
      cases h
  | additionalFlag b => cases h
  | absent => cases h
  | reference kind r => cases h
  | _ => cases ht

theorem isSchematic_of_follow {segments : List String} (ht : t.isSchematic = true)
    (h : Pointer.follow t segments = .ok t') : t'.isSchematic = true := by
  induction segments generalizing t with
  | nil =>
    cases h
    exact ht
  | cons segment rest ih =>
    obtain ⟨part, hstep, h⟩ := Pointer.follow_cons_eq_ok.1 h
    exact ih (isSchematic_of_shown ht (mem_shown_of_step hstep)) h

end Target

/-! ## Kinds of values apart from schemas -/

/-- The values of a kind are no schemas and do not lie in any: what they are once schemas have moved,
and the places for schemas in them. -/
structure Component.Apart (α : Type) [Component α] (moved : α → α) (places : α → List (RefOr Schema)) :
    Prop where
  kind : Component.kind α ≠ .schema
  ofTarget?_revised : ∀ t : Target, Component.ofTarget? (t.revised .relocated) =
    (Component.ofTarget? t).map moved
  places : ∀ (t : Target) (a : α), Component.ofTarget? t = some a → t.places = places a
  schematic : ∀ (t : Target) (a : α), Component.ofTarget? t = some a → t.isSchematic = false
  document : ∀ d : Document, (Target.document d).found? α = none
  components : ∀ c : Document.Components, (Target.components c).found? α = none

namespace Document

theorem apart_parameter :
    Component.Apart Parameter (Parameter.revised .relocated) Parameter.places where
  kind := by decide
  ofTarget?_revised t := by cases t <;> rfl
  places t a h := by
    cases t <;> cases h
    rfl
  schematic t a h := by
    cases t <;> cases h
    rfl
  document _ := rfl
  components _ := rfl

theorem apart_requestBody :
    Component.Apart RequestBody (RequestBody.revised .relocated) fun b => contentPlaces b.content where
  kind := by decide
  ofTarget?_revised t := by cases t <;> rfl
  places t a h := by
    cases t <;> cases h
    rfl
  schematic t a h := by
    cases t <;> cases h
    rfl
  document _ := rfl
  components _ := rfl

theorem apart_response :
    Component.Apart Response (Response.revised .relocated) Response.places where
  kind := by decide
  ofTarget?_revised t := by cases t <;> rfl
  places t a h := by
    cases t <;> cases h
    rfl
  schematic t a h := by
    cases t <;> cases h
    rfl
  document _ := rfl
  components _ := rfl

end Document

/-! ## What pointers lead to -/

namespace Target

variable {α : Type} [Component α] {moved : α → α} {places : α → List (RefOr Schema)} {t t' : Target}

/-- What the part that segments lead to is to a reference to a value of a kind. -/
def foundAlong (α : Type) [Component α] (t : Target) (segments : List String) : Option (RefOr α) :=
  (Pointer.follow t segments).toOption.bind (found? α)

theorem foundAlong_cons (segment : String) (rest : List String) :
    t.foundAlong α (segment :: rest) =
      (Pointer.step t segment rest).toOption.bind (foundAlong α · rest) := by
  unfold foundAlong
  rw [Pointer.follow]
  cases Pointer.step t segment rest <;> rfl

theorem found?_of_isSchematic (hα : Component.Apart α moved places) (ht : t.isSchematic = true) :
    t.found? α = none := by
  unfold found?
  cases hvalue : (Component.ofTarget? t : Option α) with
  | some a =>
    rw [hα.schematic t a hvalue] at ht
    cases ht
  | none =>
    cases t with
    | reference kind r =>
      cases kind with
      | schema => exact if_neg hα.kind.symm
      | _ => cases ht
    | _ => rfl

/-- Nothing of such a kind is found in schemas. -/
theorem foundAlong_of_isSchematic (hα : Component.Apart α moved places) (ht : t.isSchematic = true)
    (segments : List String) : t.foundAlong α segments = none := by
  unfold foundAlong
  cases h : Pointer.follow t segments with
  | error e => rfl
  | ok t' => exact found?_of_isSchematic hα (isSchematic_of_follow ht h)

/-- Parts have the same in them if they show parts under the same names that have the same in them. -/
theorem foundAlong_of_view {entries entries' : Dict Target} (ht : t.view = .keyed entries)
    (ht' : t'.view = .keyed entries') (hself : t.found? α = t'.found? α)
    (hentries : List.Forall₂ (Named fun u u' => foundAlong α u = foundAlong α u') entries entries') :
    t.foundAlong α = t'.foundAlong α := by
  have hview : Pointee.view t = .keyed entries := ht
  have hview' : Pointee.view t' = .keyed entries' := ht'
  funext segments
  cases segments with
  | nil => exact hself
  | cons segment rest =>
    have hget := rel_get? hentries segment
    rw [foundAlong_cons, foundAlong_cons]
    unfold Pointer.step
    rw [hview, hview']
    dsimp only
    generalize entries.get? segment = found at hget ⊢
    generalize entries'.get? segment = found' at hget ⊢
    cases hget with
    | none => rfl
    | some h => exact congrFun h rest

/-- Parts under the same names that are the same have the same in them. -/
theorem foundAlong_refl (entries : Dict Target) :
    List.Forall₂ (Named fun u u' => foundAlong α u = foundAlong α u') entries entries :=
  named_refl (R := fun u u' => foundAlong α u = foundAlong α u') (fun _ => rfl) entries

theorem foundAlong_components (hα : Component.Apart α moved places) (c : Document.Components)
    (named : List (String × RefOr Schema)) :
    (components { c with schemas := named }).foundAlong α = (components c).foundAlong α := by
  refine foundAlong_of_view rfl rfl ((hα.components _).trans (hα.components _).symm) ?_
  refine .cons ⟨rfl, ?_⟩ (foundAlong_refl _)
  funext segments
  exact (foundAlong_of_isSchematic hα rfl _).trans (foundAlong_of_isSchematic hα rfl _).symm

/-- Whichever schemas a document has, the rest of it stays where it is. -/
theorem foundAlong_withSchemas (hα : Component.Apart α moved places) (d : Document)
    (named definitions : List (String × RefOr Schema)) :
    (document (d.withSchemas named definitions)).foundAlong α = (document d).foundAlong α := by
  refine foundAlong_of_view rfl rfl ((hα.document _).trans (hα.document _).symm) ?_
  -- Only the components, which come after the paths, and the definitions after them are others.
  refine .cons ⟨rfl, rfl⟩ (.cons ⟨rfl, ?_⟩ (.cons ⟨rfl, ?_⟩ (foundAlong_refl _)))
  · unfold Document.withSchemas
    cases d.components with
    | none => rfl
    | some c => exact foundAlong_components hα c named
  · funext segments
    exact (foundAlong_of_isSchematic hα rfl _).trans (foundAlong_of_isSchematic hα rfl _).symm

end Target

/-! ## Following references -/

namespace Document

variable {α : Type} [Component α] {moved : α → α} {places : α → List (RefOr Schema)}
  {d d' : Document} {r : Ref} {a : α}

theorem toOption_stepFrom_of_pointer {p : Pointer} (hr : r.pointer = .ok p) :
    (stepFrom α d r).toOption = (Target.document d).foundAlong α p.segments := by
  rw [toOption_stepFrom, toOption_target hr]
  rfl

theorem toOption_stepFrom_of_pointer_error {e : RefError} (hr : r.pointer = .error e) :
    (stepFrom α d r).toOption = none := by
  rw [toOption_stepFrom]
  unfold target
  rw [hr]
  rfl

/-- A step goes where it went before schemas have moved. -/
theorem toOption_stepFrom_apart (hα : Component.Apart α moved places) (d : Document) (r : Ref) :
    (stepFrom α d.asDefinitions r).toOption =
      (stepFrom α d r).toOption.map (RefOr.onBoth id moved) := by
  have hkind : Revision.relocated.refOf (Component.kind α) = id := by
    unfold Revision.refOf
    cases hkind : Component.kind α with
    | schema => exact absurd hkind hα.kind
    | _ => rfl
  -- To keep schemas elsewhere makes no difference to such a step, and no more does it to change
  -- references to schemas.
  have hmoved : (stepFrom α d.asDefinitions r).toOption =
      (stepFrom α (d.revised .relocated) r).toOption := by
    cases hr : r.pointer with
    | error e => rw [toOption_stepFrom_of_pointer_error hr, toOption_stepFrom_of_pointer_error hr]
    | ok p =>
      rw [toOption_stepFrom_of_pointer hr, toOption_stepFrom_of_pointer hr]
      exact congrFun (Target.foundAlong_withSchemas hα _ _ _) p.segments
  rw [hmoved, stepFrom_revised hα.ofTarget?_revised, hkind]
  cases stepFrom α d r <;> rfl

/-- A reference to a schema leads to nothing else, before schemas have moved and after that. -/
theorem toOption_stepFrom_of_namesComponent (hα : Component.Apart α moved places)
    (hr : NamesComponent r.text) :
    (stepFrom α d r).toOption = none ∧ (stepFrom α d ⟨relocated r.text⟩).toOption = none := by
  obtain ⟨name, hpointer, hpointer'⟩ := hr.exists_pointer
  have hnone : ∀ place : Option (RefOr Schema),
      (place.map Target.atSchema).bind (Target.found? α) = none := by
    intro place
    cases place with
    | none => rfl
    | some place => exact Target.found?_of_isSchematic hα (Target.isSchematic_atSchema place)
  rw [toOption_stepFrom, toOption_stepFrom, toOption_target hpointer, toOption_target hpointer',
    Target.toOption_follow_component, Target.toOption_follow_definition]
  exact ⟨hnone _, hnone _⟩

theorem toOption_followFrom_of_step (unfollowed : List String)
    (h : (stepFrom α d r).toOption = none) : (followFrom α d unfollowed r).toOption = none := by
  rw [followFrom]
  cases hstep : stepFrom α d r with
  | error e => split <;> rfl
  | ok place =>
    rw [hstep] at h
    cases h

/-- References are followed to the same values in both documents if every step does the same, and
whatever leads further may be followed in both. -/
theorem toOption_followFrom (hsteps : ∀ q : Ref, (stepFrom α d' q).toOption =
      (stepFrom α d q).toOption.map (RefOr.onBoth id moved))
    {unfollowed unfollowed' : List String}
    (hmem : ∀ q : Ref, (stepFrom α d q).toOption = none ∨
      (q.text ∈ unfollowed ↔ q.text ∈ unfollowed')) :
    (followFrom α d' unfollowed' r).toOption = (followFrom α d unfollowed r).toOption.map moved := by
  -- A reference that leads somewhere may be followed in both documents or in none.
  have hagree : ∀ {unfollowed unfollowed' : List String}, (∀ q : Ref, (stepFrom α d q).toOption = none ∨
      (q.text ∈ unfollowed ↔ q.text ∈ unfollowed')) → ∀ (q : Ref) (place : RefOr α),
      stepFrom α d q = .ok place → (q.text ∈ unfollowed ↔ q.text ∈ unfollowed') := by
    intro unfollowed unfollowed' hmem q place hq
    rcases hmem q with hnone | hiff
    · rw [hq] at hnone
      cases hnone
    · exact hiff
  induction unfollowed, r using followFrom.induct α d generalizing unfollowed' with
  | case1 unfollowed r hin e hstep =>
    have hnone : (stepFrom α d r).toOption = none := by
      rw [hstep]
      rfl
    have hnone' := hsteps r
    rw [hnone] at hnone'
    rw [toOption_followFrom_of_step _ hnone, toOption_followFrom_of_step _ hnone']
    rfl
  | case2 unfollowed r hin a hstep =>
    have hfirst := hsteps r
    rw [hstep] at hfirst
    have hin' : r.text ∈ unfollowed' := (hagree hmem r _ hstep).1 hin
    rw [followFrom, followFrom, dif_pos hin, dif_pos hin', hstep, eq_ok_of_toOption hfirst]
    rfl
  | case3 unfollowed r hin next hstep ih =>
    have hfirst := hsteps r
    rw [hstep] at hfirst
    have hin' : r.text ∈ unfollowed' := (hagree hmem r _ hstep).1 hin
    have hwithout : ∀ q : Ref, (stepFrom α d q).toOption = none ∨
        (q.text ∈ without unfollowed r.text ↔ q.text ∈ without unfollowed' r.text) := by
      intro q
      rw [mem_without, mem_without]
      exact (hmem q).imp id fun h => and_congr_left' h
    rw [followFrom, followFrom, dif_pos hin, dif_pos hin', hstep, eq_ok_of_toOption hfirst]
    exact ih hwithout
  | case4 unfollowed r hout =>
    -- The chain ends in a loop here. It does so there, unless it ends there as it leads nowhere.
    have hstopped : followFrom α d unfollowed r = .error (.cycle r.text) := by
      rw [followFrom, dif_neg hout]
    rw [hstopped]
    rcases hmem r with hnone | hiff
    · have hnone' := hsteps r
      rw [hnone] at hnone'
      rw [toOption_followFrom_of_step _ hnone']
      rfl
    · rw [followFrom, dif_neg (mt hiff.2 hout)]
      rfl

theorem references_asDefinitions (h : d.definitions = []) :
    d.asDefinitions.references =
      d.parameterPlaces.filterMap RefOr.ref? ++ d.bodyPlaces.filterMap RefOr.ref? ++
        d.responsePlaces.filterMap RefOr.ref? ++
        (d.schemaPlaces.flatMap Schema.references).map Revision.relocated.ref := by
  have hparameters : d.asDefinitions.parameterPlaces = (d.revised .relocated).parameterPlaces := rfl
  have hbodies : d.asDefinitions.bodyPlaces = (d.revised .relocated).bodyPlaces := rfl
  have hresponses : d.asDefinitions.responsePlaces = (d.revised .relocated).responsePlaces := rfl
  unfold references
  rw [hparameters, hbodies, hresponses, schemaPlaces_asDefinitions h, parameterPlaces_revised,
    bodyPlaces_revised, responsePlaces_revised, filterMap_ref?_onBoth, filterMap_ref?_onBoth,
    filterMap_ref?_onBoth, flatMap_map_of_comm fun place => Schema.references_revised _ place]

/-- Of the references that lead to values of a kind, both documents have the same. -/
theorem mem_references_asDefinitions (hα : Component.Apart α moved places) (h : d.IsRelocatable)
    (q : Ref) : (stepFrom α d q).toOption = none ∨
      (q ∈ d.references ↔ q ∈ d.asDefinitions.references) := by
  have hnamed : ∀ r ∈ d.schemaPlaces.flatMap Schema.references, NamesComponent r.text := by
    intro r hr
    obtain ⟨place, hplace, hr⟩ := List.mem_flatMap.1 hr
    exact (h.places place hplace).references r hr
  rw [references_asDefinitions h.definitions]
  unfold references
  -- Only references to schemas come and go, and these lead to no value of the kind.
  by_cases hq : q ∈ d.schemaPlaces.flatMap Schema.references
  · exact .inl (toOption_stepFrom_of_namesComponent hα (hnamed q hq)).1
  by_cases hq' : q ∈ (d.schemaPlaces.flatMap Schema.references).map Revision.relocated.ref
  · obtain ⟨r, hr, rfl⟩ := List.mem_map.1 hq'
    exact .inl (toOption_stepFrom_of_namesComponent hα (hnamed r hr)).2
  · refine .inr ?_
    exact (List.mem_append.trans (or_iff_left hq)).trans
      (List.mem_append.trans (or_iff_left hq')).symm

/-- A reference to a value of a kind resolves to the value that it resolved to before schemas have
moved, or to none again. -/
theorem toOption_resolve_apart (hα : Component.Apart α moved places) (h : d.IsRelocatable) (r : Ref) :
    (d.asDefinitions.resolve α r).toOption = (d.resolve α r).toOption.map moved := by
  have htext : ∀ (q : Ref) (refs : List Ref), q.text ∈ refs.map (·.text) ↔ q ∈ refs := by
    intro q refs
    rw [List.mem_map]
    constructor
    · rintro ⟨⟨text⟩, hmem, rfl⟩
      exact hmem
    · exact fun hmem => ⟨q, hmem, rfl⟩
  refine toOption_followFrom (toOption_stepFrom_apart hα d) fun q => ?_
  rw [List.mem_cons, List.mem_cons, htext, htext]
  exact (mem_references_asDefinitions hα h q).imp id fun h => or_congr_right h

/-! ## The values themselves -/

/-- A value of a kind that a reference resolves to has places of the document only. -/
theorem hasPlace_of_resolve_apart (hα : Component.Apart α moved places) (h : d.resolve α r = .ok a) :
    ∀ place ∈ places a, d.HasPlace place := by
  obtain ⟨q, t, ht, ha⟩ := exists_target_of_resolve h
  rw [← hα.places t a ha]
  exact hasPlace_of_target ht

/-- A value that becomes another when schemas move. -/
structure Moves (moved : α → α) (places : α → List (RefOr Schema)) (a a' : α) : Prop where
  eq : a' = moved a
  relocatable : ∀ place ∈ places a, Schema.IsRelocatable place

/-- The value at a place becomes what stands there or is referred to there once schemas have moved. -/
theorem IsRelocatable.valueAt (h : d.IsRelocatable) (hα : Component.Apart α moved places)
    {place : RefOr α} (hplace : ∀ a ∈ place.inline?, ∀ part ∈ places a, Schema.IsRelocatable part) :
    (d.valueAt α place).Alongside LocationMoves (fun _ _ => True) (Moves moved places)
      (d.asDefinitions.valueAt α (place.onBoth id moved)) := by
  cases place with
  | inline a => exact .pure ⟨rfl, hplace a rfl⟩
  | ref r =>
    refine .ofExcept (both_of_rel ?_)
    have htoOption : ∀ (e : Except UnresolvedReason α) (f : UnresolvedReason → NormalizeError),
        (e.mapError f).toOption = e.toOption := by
      intro e f
      cases e <;> rfl
    rw [htoOption, htoOption]
    show Option.Rel _ _ (d.asDefinitions.resolve α r).toOption
    rw [toOption_resolve_apart hα h]
    refine rel_map fun a ha => ⟨rfl, fun place hplace => h.of_hasPlace ?_⟩
    exact hasPlace_of_resolve_apart hα (eq_ok_of_toOption ha) place hplace

end Document

end ApiShape
