import ApiShape.Proofs.Document.Ancestors

/-!
# Distinct property names

The properties of a schema stand for a dictionary, in which a name occurs once. If that is so for all
schemas of a document, it is so for every schema that the search for ancestors comes to.
-/

namespace ApiShape

instance {α : Type} (d : Dict α) : Decidable d.Distinct :=
  inferInstanceAs (Decidable d.keys.Nodup)

/-- No schema at the place, however deep inside, declares a property twice. -/
def Schema.DistinctNames (place : RefOr Schema) : Prop :=
  ∀ s ∈ nestedPlace place, Dict.Distinct (s.properties.getD [])

instance (place : RefOr Schema) : Decidable (Schema.DistinctNames place) :=
  inferInstanceAs (Decidable (∀ s ∈ Schema.nestedPlace place, Dict.Distinct (s.properties.getD [])))

namespace Document

/-- No schema of the document declares a property twice. -/
def DistinctNames (d : Document) : Prop :=
  ∀ s ∈ d.nestedSchemas, Dict.Distinct (s.properties.getD [])

instance (d : Document) : Decidable d.DistinctNames :=
  inferInstanceAs (Decidable (∀ s ∈ d.nestedSchemas, Dict.Distinct (s.properties.getD [])))

variable {d : Document} {s : Schema} {location name : String} {place : RefOr Schema}

theorem distinctNames_of_mem_parts (hs : Schema.DistinctNames (.inline s)) (h : place ∈ s.parts) :
    Schema.DistinctNames place := by
  intro t ht
  apply hs
  rw [Schema.mem_nestedPlace_inline, Schema.mem_nested_iff]
  exact .inr ⟨place, h, ht⟩

theorem upward_distinctNames (hd : d.DistinctNames) : d.Upward Schema.DistinctNames where
  branch _ hs _ hplace := distinctNames_of_mem_parts hs (Schema.mem_parts_of_allOf hplace)
  target r s _ hr t ht := by
    rw [Schema.mem_nestedPlace_inline] at ht
    exact hd t ((hasPlace_of_resolve hr).nested_subset ht)

/-- The first ancestor that declares a property declares it at such a place. -/
theorem FirstDeclares.distinctNames {a : Ancestor} (h : d.FirstDeclares s location name a place)
    (hd : d.DistinctNames) (hs : Schema.DistinctNames (.inline s)) : Schema.DistinctNames place := by
  obtain ⟨earlier, later, left, hvisits, -, hplace⟩ := h
  have hup := upward_distinctNames hd
  have ha : Schema.DistinctNames (.inline a.schema) := by
    refine hvisits.forall_mem hup (fun b hb => ?_) a (by simp)
    exact hup.branch s hs _ (Schema.mem_allOf_of_mem_branches hb)
  obtain ⟨properties, hproperties, hget⟩ := Option.bind_eq_some_iff.1 hplace
  have hmem : (name, place) ∈ a.schema.properties.getD [] := by
    rw [hproperties]
    exact Dict.mem_of_get?_eq_some hget
  exact distinctNames_of_mem_parts ha (Schema.mem_parts_of_property hmem)

end Document

end ApiShape
