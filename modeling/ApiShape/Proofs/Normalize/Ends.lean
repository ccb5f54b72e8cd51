import ApiShape.Proofs.Normalize.Sites

/-!
# Normalization ends

Normalizing a schema leads to other schemas: to those right inside it that its form asks for, and to
the required properties that it takes over from its ancestors, which may lie anywhere in the document.
If no schema of a document leads back to itself, everything that a schema leads to comes to an end
within as many steps as there are schemas, whatever references and hierarchies loop.
-/

namespace ApiShape

/-! ## Steps without a way back -/

section Acyclic

variable {α : Type} {R : α → α → Prop}

/-- A path along a relation that leads back to nothing meets everything once. -/
theorem nodup_of_isChain (hR : ∀ a, ¬ Relation.TransGen R a a) {as : List α}
    (h : List.IsChain R as) : as.Nodup := by
  have hlater : List.Pairwise (Relation.TransGen R) as :=
    (h.imp fun _ _ hab => Relation.TransGen.single hab).pairwise
  refine hlater.imp ?_
  intro a b hab heq
  exact hR a (heq ▸ hab)

/-- Where a path leads is where its start leads. -/
theorem transGen_of_isChain_cons {a b : α} {as : List α} (h : List.IsChain R (a :: as))
    (hb : b ∈ as) : Relation.TransGen R a b := by
  have hlater : List.Pairwise (Relation.TransGen R) (a :: as) :=
    (h.imp fun _ _ hab => Relation.TransGen.single hab).pairwise
  exact (List.pairwise_cons.1 hlater).1 b hb

end Acyclic

namespace Schema

theorem mem_parts_of_objectPlaces {s : Schema} {place : RefOr Schema}
    (h : place ∈ s.objectPlaces) : place ∈ s.parts := by
  unfold objectPlaces at h
  rcases List.mem_append.1 h with h | h
  · obtain ⟨e, he, rfl⟩ := List.mem_map.1 h
    exact mem_parts_of_property he
  · split at h
    · rename_i additional hadditional
      rw [List.mem_singleton.1 h]
      exact mem_parts_of_additional hadditional
    · cases h

theorem mem_parts_of_typePlaces {s : Schema} {type : SchemaType} {place : RefOr Schema}
    (h : place ∈ s.typePlaces type) : place ∈ s.parts := by
  cases type with
  | array => exact mem_parts_of_items (Option.mem_toList.1 h)
  | object => exact mem_parts_of_objectPlaces h
  | _ => cases h

end Schema

namespace Document

variable {d : Document} {s t u : Schema}

/-! ## Where a normalization leads -/

/-- A schema leads to a schema that stands right at a place that its normalization normalizes. What it
leads to depends on nothing but what it says: one that leads to a schema equal to itself, wherever that
stands, goes on like this for ever. -/
def LeadsTo (d : Document) (s t : Schema) : Prop :=
  .inline t ∈ d.nextPlaces s

/-- The places that a normalization goes on with lie in the schema, or are taken over. -/
theorem mem_nextPlaces {place : RefOr Schema} (h : place ∈ d.nextPlaces s) :
    place ∈ s.parts ∨ place ∈ d.inheritedPlaces s := by
  unfold nextPlaces at h
  cases hform : s.form with
  | enum values | untyped =>
    rw [hform] at h
    cases h
  | allOf branches =>
    -- Only here are there places that other schemas declare.
    rw [hform] at h
    rcases List.mem_append.1 h with h | h
    · exact .inl (Schema.mem_parts_of_form (.inl hform) h)
    · split at h
      · rcases List.mem_append.1 h with h | h
        · exact .inl (Schema.mem_parts_of_objectPlaces h)
        · exact .inr h
      · cases h
  | anyOf branches | oneOf branches =>
    rw [hform] at h
    left
    rcases List.mem_append.1 h with h | h
    · first
      | exact Schema.mem_parts_of_form (.inr (.inl hform)) h
      | exact Schema.mem_parts_of_form (.inr (.inr hform)) h
    · split at h
      · exact Schema.mem_parts_of_objectPlaces h
      · cases h
  | typed =>
    rw [hform] at h
    obtain ⟨type, -, h⟩ := List.mem_flatMap.1 h
    exact .inl (Schema.mem_parts_of_typePlaces h)

/-- The schema lies inside the other, deeper than that itself, or it is one of the document. -/
def Below (d : Document) (s t : Schema) : Prop :=
  (sizeOf t < sizeOf s ∧ t ∈ s.nested) ∨ t ∈ d.nestedSchemas

theorem nested_subset_of_mem_nestedSchemas (h : s ∈ d.nestedSchemas) :
    s.nested ⊆ d.nestedSchemas := by
  obtain ⟨place, hplace, hs⟩ := List.mem_flatMap.1 h
  cases place with
  | ref r =>
    rw [Schema.nestedPlace] at hs
    cases hs
  | inline root =>
    intro t ht
    have hroot := Schema.nested_subset (Schema.mem_nestedPlace_inline.1 hs) ht
    exact List.mem_flatMap.2 ⟨_, hplace, Schema.mem_nestedPlace_inline.2 hroot⟩

theorem below_of_mem_parts (h : .inline t ∈ s.parts) : d.Below s t := by
  left
  have hsize := Schema.sizeOf_lt_of_mem_parts h
  rw [RefOr.inline.sizeOf_spec] at hsize
  exact ⟨by omega, Schema.mem_nested_of_mem_parts (Schema.mem_nested_iff.2 (.inl rfl)) h⟩

theorem Below.trans (hst : d.Below s t) (htu : d.Below t u) : d.Below s u := by
  rcases htu with ⟨hsize, hu⟩ | hu
  · rcases hst with ⟨hsize', ht⟩ | ht
    · exact .inl ⟨by omega, Schema.nested_subset ht hu⟩
    · exact .inr (nested_subset_of_mem_nestedSchemas ht hu)
  · exact .inr hu

/-- The ancestors of a schema lie below it, since a reference leads into the document. -/
theorem below_of_mem_ancestors {location : String} {a : Ancestor}
    (h : a ∈ d.ancestors s location) : d.Below s a.schema := by
  obtain ⟨left, hvisits⟩ := d.visits_ancestors s location
  have hup : d.Upward fun place => ∀ t, place = .inline t → d.Below s t := by
    constructor
    · rintro t ht place hplace u rfl
      exact (ht t rfl).trans (below_of_mem_parts (Schema.mem_parts_of_allOf hplace))
    · rintro r t - ht u hu
      cases hu
      exact .inr (hasPlace_of_resolve ht).mem_nestedSchemas
  refine hvisits.forall_mem hup ?_ a h a.schema rfl
  intro b hb t ht
  have hplace := Schema.mem_allOf_of_mem_branches hb
  rw [ht] at hplace
  exact below_of_mem_parts (Schema.mem_parts_of_allOf hplace)

theorem below_of_mem_inheritedPlaces (h : .inline t ∈ d.inheritedPlaces s) : d.Below s t := by
  obtain ⟨name, -, hname⟩ := List.mem_filterMap.1 h
  obtain ⟨found, hfound, hplace⟩ := Option.map_eq_some_iff.1 hname
  obtain ⟨a, ha, hproperty⟩ := List.exists_of_findSome?_eq_some hfound
  obtain ⟨place, hdeclared, rfl⟩ := Option.map_eq_some_iff.1 hproperty
  dsimp only at hplace
  subst hplace
  -- The schema is a property of an ancestor.
  apply (below_of_mem_ancestors ha).trans
  apply below_of_mem_parts
  have hget : Dict.get? (a.schema.properties.getD []) name = some (.inline t) := by
    unfold Schema.property? at hdeclared
    cases hproperties : a.schema.properties with
    | none =>
      rw [hproperties] at hdeclared
      cases hdeclared
    | some properties =>
      rw [hproperties] at hdeclared
      exact hdeclared
  exact Schema.mem_parts_of_property (Dict.mem_of_get?_eq_some hget)

/-- In one step or more, a schema leads to what lies below it. -/
theorem below_of_transGen (h : Relation.TransGen d.LeadsTo s t) : d.Below s t := by
  have hstep : ∀ {s t}, d.LeadsTo s t → d.Below s t := by
    intro s t h
    rcases mem_nextPlaces h with h | h
    · exact below_of_mem_parts h
    · exact below_of_mem_inheritedPlaces h
  induction h with
  | single h => exact hstep h
  | tail _ h ih => exact ih.trans (hstep h)

/-- If no schema of a document leads back to itself, no schema does. -/
theorem not_transGen_self (hd : ∀ s ∈ d.nestedSchemas, ¬ Relation.TransGen d.LeadsTo s s)
    (s : Schema) : ¬ Relation.TransGen d.LeadsTo s s := by
  intro h
  rcases below_of_transGen h with ⟨hsize, -⟩ | hs
  · exact absurd hsize (Nat.lt_irrefl _)
  · exact hd s hs h

/-- A rank that gets smaller with every step shows that no schema of a document leads back to itself. -/
theorem not_transGen_of_rank (rank : Schema → Nat)
    (h : ∀ s ∈ d.nestedSchemas, ∀ t, d.LeadsTo s t → rank t < rank s) :
    ∀ s ∈ d.nestedSchemas, ¬ Relation.TransGen d.LeadsTo s s := by
  -- Along a chain the rank falls, as long as the chain stays in the document, which it does.
  have hrank : ∀ {s t}, s ∈ d.nestedSchemas → Relation.TransGen d.LeadsTo s t →
      t ∈ d.nestedSchemas ∧ rank t < rank s := by
    intro s t hs hst
    have hclosed : ∀ {u}, Relation.TransGen d.LeadsTo s u → u ∈ d.nestedSchemas := by
      intro u hu
      rcases below_of_transGen hu with ⟨-, hu⟩ | hu
      · exact nested_subset_of_mem_nestedSchemas hs hu
      · exact hu
    induction hst with
    | single hst => exact ⟨hclosed (.single hst), h s hs _ hst⟩
    | tail hsu hut ih =>
      have hlt := h _ ih.1 _ hut
      exact ⟨hclosed (hsu.tail hut), by omega⟩
  intro s hs hself
  exact absurd (hrank hs hself).2 (Nat.lt_irrefl _)

/-! ## Within some steps -/

/-- Everything that a schema leads to comes to an end within some steps. -/
def EndsWithin (d : Document) : (steps : Nat) → Schema → Prop
  | 0, _ => False
  | steps + 1, s => ∀ t, d.LeadsTo s t → d.EndsWithin steps t

/-- What does not end within some steps leads on for as many. -/
theorem exists_isChain {steps : Nat} (h : ¬ d.EndsWithin steps s) :
    ∃ rest : List Schema, rest.length = steps ∧ List.IsChain d.LeadsTo (s :: rest) := by
  induction steps generalizing s with
  | zero => exact ⟨[], rfl, List.isChain_singleton s⟩
  | succ steps ih =>
    unfold EndsWithin at h
    push Not at h
    obtain ⟨t, hst, ht⟩ := h
    obtain ⟨rest, hlength, hchain⟩ := ih ht
    exact ⟨t :: rest, by rw [List.length_cons, hlength], List.isChain_cons_cons.2 ⟨hst, hchain⟩⟩

/-- There are not more schemas to lead to than those in a schema and those of the document. -/
theorem endsWithin_stepsFor (hd : ∀ s ∈ d.nestedSchemas, ¬ Relation.TransGen d.LeadsTo s s)
    (s : Schema) : d.EndsWithin (d.stepsFor (.inline s)) s := by
  -- A run that does not end in these steps passes as many schemas as there are steps. It passes none
  -- twice, but there are fewer schemas than that.
  by_contra h
  obtain ⟨rest, hlength, hchain⟩ := exists_isChain h
  have hnodup := nodup_of_isChain (not_transGen_self hd) hchain
  have hsubset : s :: rest ⊆ s.nested ++ d.nestedSchemas := by
    intro t ht
    rw [List.mem_append]
    rcases List.mem_cons.1 ht with rfl | ht
    · exact .inl (Schema.mem_nested_iff.2 (.inl rfl))
    · exact (below_of_transGen (transGen_of_isChain_cons hchain ht)).imp_left And.right
  have hle := (List.subperm_of_subset hnodup hsubset).length_le
  rw [List.length_cons, List.length_append, hlength] at hle
  have hsteps : d.stepsFor (.inline s) = s.nested.length + d.nestedSchemas.length := by
    unfold stepsFor
    rw [Schema.nestedPlace]
  omega

/-- A normalization is never out of steps: its result is no such failure. -/
theorem allowed_endless :
    Report.Allowed (fun _ => True) (fun e : NormalizeError => e ≠ .endless) :=
  ⟨⟨fun _ _ _ => trivial, fun _ _ => nofun⟩, fun _ _ => trivial⟩

/-- The normalization of a schema is the same with more steps than everything it leads to takes. -/
theorem agree_normalizeWithin {steps steps' : Nat} (h : d.EndsWithin steps s)
    (hle : steps ≤ steps') (component : Option String) (location : String) :
    (d.normalizeWithin steps component (.inline s) location).Agree (fun _ => True) (· ≠ .endless)
      (d.normalizeWithin steps' component (.inline s) location) := by
  induction steps generalizing s steps' component location with
  | zero => exact h.elim
  | succ steps ih =>
    obtain ⟨more, rfl⟩ : ∃ more, steps' = more + 1 := ⟨steps' - 1, by omega⟩
    rw [normalizeWithin, normalizeWithin]
    apply Schema.agree_normalizeLayer allowed_endless.unresolved
    · exact fun values _ => Schema.confined_literals allowed_endless.skipped s location 0 values
    · intro place hplace location _
      cases place with
      | ref r =>
        rw [normalizeWithin, normalizeWithin]
        exact (d.confined_resolved allowed_endless.unresolved Schema r).bind fun _ _ => .pure _
      | inline t => exact ih (h t hplace) (by omega) none location

theorem agree_normalizeWithin_stepsFor
    (hd : ∀ s ∈ d.nestedSchemas, ¬ Relation.TransGen d.LeadsTo s s) (place : RefOr Schema)
    {steps : Nat} (hle : d.stepsFor place ≤ steps) (component : Option String) (location : String) :
    (d.normalizeWithin (d.stepsFor place) component place location).Agree (fun _ => True)
      (· ≠ .endless) (d.normalizeWithin steps component place location) := by
  cases place with
  | ref r =>
    rw [normalizeWithin, normalizeWithin]
    exact (d.confined_resolved allowed_endless.unresolved Schema r).bind fun _ _ => .pure _
  | inline s => exact agree_normalizeWithin (endsWithin_stepsFor hd s) hle component location

/-! ## Documents -/

/-- Operations are not endless if their schemas are not. -/
theorem failed_normalizeSites {taken : TakenIds} {sites : List Site}
    (hsites : ∀ s ∈ sites, s.document.Confined (fun _ => True) (· ≠ .endless)) {e : NormalizeError}
    (h : (normalizeSites taken sites).1.report.result = .error e) : e ≠ .endless := by
  have hreport := confined_normalizeSites taken
    (fun s _ => s.confined_chooseId (fun _ _ => trivial) fun _ _ _ => nofun)
    fun s hs => s.confined_normalize allowed_endless (hsites s hs)
  exact hreport.failed e h

/-- If no schema of a document leads back to itself, the normalization of the document ends with a
result or an error, whatever the configuration. How many steps a schema is given does not matter, as
long as there are as many as there are schemas in it and in the document. -/
theorem normalize_ne_endless (hd : ∀ s ∈ d.nestedSchemas, ¬ Relation.TransGen d.LeadsTo s s) :
    (∀ config, d.normalize config ≠ .error .endless) ∧
      ∀ component place location steps, d.stepsFor place ≤ steps →
        d.normalizeWithin steps component place location =
          d.normalizeWithin (d.stepsFor place) component place location := by
  constructor
  · intro config h
    have hconfined : d.Confined (fun _ => True) (· ≠ .endless) := by
      constructor
      · exact fun place => agree_normalizeWithin_stepsFor hd place (Nat.le_refl _) none
      · exact fun name place => agree_normalizeWithin_stepsFor hd place (Nat.le_refl _) (some name)
    rcases error_of_normalize h with hfailed | hfailed
    · exact (Session.confined_components (s := .start d config) hconfined (fun _ _ => trivial)
        d.schemas).2 _ hfailed rfl
    · have hrun := (d.matches_normalizePathsFrom config [] d.paths).result.symm.trans hfailed
      refine failed_normalizeSites ?_ hrun rfl
      intro s hs
      rw [(mem_operationSites hs).1]
      exact hconfined
  · intro component place location steps hle
    exact (agree_normalizeWithin_stepsFor hd place hle component location).same

/-- A rope, which must have a length but does not say what that is. -/
def ropeSchema : Schema :=
  { allOf := some [.ref ⟨"#/definitions/Cord"⟩], required := ["length"] }

/-- A knot: a node leads to the next one by a reference, and a cord and a rope are each an `allOf` of the
other. The rope takes over what the node says of its length. -/
def knotDocument : Document :=
  { definitions := [
      ("Node", .inline {
        types := [.object]
        properties := some [
          ("length", .inline { types := [.number] }),
          ("next", .ref ⟨"#/definitions/Node"⟩)] }),
      ("Cord", .inline { allOf := some [.ref ⟨"#/definitions/Rope"⟩, .ref ⟨"#/definitions/Node"⟩] }),
      ("Rope", .inline ropeSchema)] }

/-- How far a schema of the knot is from those that lead nowhere. -/
def knotRank (s : Schema) : Nat :=
  s.nested.length + s.required.length

theorem normalize_ne_endless_knot :
    ropeSchema ∈ knotDocument.nestedSchemas ∧
      knotDocument.LeadsTo ropeSchema { types := [.number] } ∧
      (∀ s ∈ knotDocument.nestedSchemas, ¬ Relation.TransGen knotDocument.LeadsTo s s) ∧
      (∀ config, knotDocument.normalize config ≠ .error .endless) ∧
      ∀ component place location steps, knotDocument.stepsFor place ≤ steps →
        knotDocument.normalizeWithin steps component place location =
          knotDocument.normalizeWithin (knotDocument.stepsFor place) component place location := by
  have hrank : (knotDocument.nestedSchemas.all fun s => (knotDocument.nextPlaces s).all fun place =>
      place.inline?.all fun t => decide (knotRank t < knotRank s)) = true := by cbv
  have hacyclic := not_transGen_of_rank knotRank fun s hs t hst =>
    of_decide_eq_true (List.all_eq_true.1 (List.all_eq_true.1 hrank s hs) _ hst)
  have hrope : knotDocument.nextPlaces ropeSchema =
      [.ref ⟨"#/definitions/Cord"⟩, .inline { types := [.number] }] := by cbv
  have hmem : ropeSchema ∈ knotDocument.nestedSchemas :=
    List.mem_flatMap.2 ⟨.inline ropeSchema, by simp [schemaPlaces, knotDocument],
      Schema.mem_nestedPlace_inline.2 (Schema.mem_nested_iff.2 (.inl rfl))⟩
  refine ⟨hmem, ?_, hacyclic, normalize_ne_endless hacyclic⟩
  show RefOr.inline _ ∈ knotDocument.nextPlaces ropeSchema
  rw [hrope]
  exact List.mem_cons_of_mem _ (List.mem_singleton_self _)

end Document

end ApiShape
