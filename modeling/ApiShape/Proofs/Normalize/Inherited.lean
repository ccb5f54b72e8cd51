import ApiShape.Proofs.Document.DistinctNames
import ApiShape.Proofs.Node.Conjuncts
import ApiShape.Proofs.Normalize.Building
import Mathlib

/-!
# Properties of intersections

An intersection keeps the properties that its schema declares, and takes over the required ones that
only ancestors declare. They come together in one object, which stays a conjunct of what the
intersection becomes.
-/

namespace ApiShape

namespace Schema

open Node

variable {d : Document} {normalize : Normalizer} {s t : Schema} {location name : String}
  {properties properties' : Dict Node} {names : List String} {m : Node} {found : Document.Inherited}

/-! ## Taking over -/

theorem inheritedNode_of_has (hhas : properties.has name = true)
    (h : (s.inheritedNode d normalize location properties name).result = .ok properties') :
    properties' = properties := by
  unfold inheritedNode at h
  rw [if_pos hhas, Report.pure_eq_ok] at h
  exact h.symm

theorem inheritedNode_of_inherited (hhas : properties.has name = false)
    (hfound : d.inheritedProperty? s location name = some found)
    (h : (s.inheritedNode d normalize location properties name).result = .ok properties') :
    ∃ m, (normalize found.property found.location).result = .ok m ∧
      properties' = properties.insert name m := by
  unfold inheritedNode at h
  rw [if_neg (Bool.eq_false_iff.1 hhas), hfound] at h
  simp only [Report.bind_eq_ok, Report.pure_eq_ok] at h
  obtain ⟨m, hm, rfl⟩ := h
  exact ⟨m, hm, rfl⟩

/-- Taking over one property changes no other. -/
theorem get?_inheritedNode {other : String} (hne : other ≠ name)
    (h : (s.inheritedNode d normalize location properties other).result = .ok properties') :
    properties'.get? name = properties.get? name := by
  rcases inheritedNode_eq_ok h with rfl | ⟨found, m, -, -, rfl⟩
  · rfl
  · rw [Dict.get?_insert, if_neg hne]

/-- Properties at hand stay as they are. -/
theorem get?_takeOver (hm : properties.get? name = some m)
    (h : (s.takeOver d normalize location properties names).result = .ok properties') :
    properties'.get? name = some m := by
  induction names generalizing properties with
  | nil =>
    rw [takeOver, Report.pure_eq_ok] at h
    rw [← h, hm]
  | cons other rest ih =>
    rw [takeOver, Report.bind_eq_ok] at h
    obtain ⟨next, hnext, h⟩ := h
    apply ih _ h
    by_cases hne : other = name
    · -- It is at hand, so it is not looked for.
      subst hne
      rw [inheritedNode_of_has (by simp [Dict.has, hm]) hnext, hm]
    · rw [get?_inheritedNode hne hnext, hm]

/-- A required property that is not at hand is taken over from where it is found. -/
theorem exists_takeOver (hname : name ∈ names) (hhas : properties.has name = false)
    (hfound : d.inheritedProperty? s location name = some found)
    (h : (s.takeOver d normalize location properties names).result = .ok properties') :
    ∃ m, (normalize found.property found.location).result = .ok m ∧
      properties'.get? name = some m := by
  induction names generalizing properties with
  | nil => cases hname
  | cons other rest ih =>
    rw [takeOver, Report.bind_eq_ok] at h
    obtain ⟨next, hnext, h⟩ := h
    by_cases hne : other = name
    · -- From here on the property is at hand.
      subst hne
      obtain ⟨m, hm, rfl⟩ := inheritedNode_of_inherited hhas hfound hnext
      have hget : (properties.insert other m).get? other = some m := by
        rw [Dict.get?_insert, if_pos rfl]
      exact ⟨m, hm, get?_takeOver hget h⟩
    · have hrest : name ∈ rest := (List.mem_cons.1 hname).resolve_left fun h => hne h.symm
      refine ih hrest ?_ h
      rw [Dict.has, get?_inheritedNode hne hnext]
      exact hhas

/-! ## The own object -/

theorem isSome_property? (s : Schema) (name : String) :
    (s.property? name).isSome = Dict.has (s.properties.getD []) name := by
  unfold property?
  cases s.properties <;> rfl

/-- What is declared becomes a property, and what is not does not. -/
theorem has_propertyNodes (h : (s.propertyNodes normalize location).result = .ok properties) :
    properties.has name = (s.property? name).isSome := by
  rw [isSome_property?, Bool.eq_iff_iff, Dict.has_iff_mem_keys, Dict.has_iff_mem_keys,
    keys_propertyNodes h]

/-- The object of a schema has the properties that the schema declares and those that it requires and
inherits, and requires what the schema requires of them. -/
theorem exists_ownShape {shape : List Node}
    (hname : (s.property? name).isSome = true ∨
      name ∈ s.required ∧ (d.inheritedProperty? s location name).isSome = true)
    (h : (s.ownShape d normalize location).result = .ok shape) :
    ∃ o, shape = [o] ∧ o.operator = none ∧ (name ∈ s.required → name ∈ o.required) ∧
      ∃ q, Dict.get? o.properties name = some q ∧
        (s.property? name = none → ∃ found, d.inheritedProperty? s location name = some found ∧
          (normalize found.property found.location).result = .ok q) := by
  have hinfers : s.infersObject = true := by
    rcases hname with hown | ⟨hrequired, -⟩
    · cases hp : s.properties <;> simp_all [property?, infersObject]
    · simp [infersObject, List.ne_nil_of_mem hrequired]
  rcases ownShape_eq_ok.1 h with ⟨hnot, -⟩ | ⟨-, declared, properties, o, hdeclared, htaken, ho, rfl⟩
  · rw [hinfers] at hnot
    cases hnot
  obtain ⟨additional, -, rfl⟩ := objectNode_eq_ok.1 ho
  -- What is declared stays when the rest is taken over; what is not comes from where it is found.
  obtain ⟨q, hq, hinherited⟩ : ∃ q, properties.get? name = some q ∧
      (s.property? name = none → ∃ found, d.inheritedProperty? s location name = some found ∧
        (normalize found.property found.location).result = .ok q) := by
    cases hown : s.property? name with
    | some place =>
      have hhas : declared.has name = true := by rw [has_propertyNodes hdeclared, hown]; rfl
      obtain ⟨q, hq⟩ := Option.isSome_iff_exists.1 hhas
      exact ⟨q, get?_takeOver hq htaken, nofun⟩
    | none =>
      have hhas : declared.has name = false := by rw [has_propertyNodes hdeclared, hown]; rfl
      obtain ⟨hrequired, hfound⟩ := hname.resolve_left (by simp [hown])
      obtain ⟨found, hfound⟩ := Option.isSome_iff_exists.1 hfound
      obtain ⟨q, hnode, hq⟩ := exists_takeOver hrequired hhas hfound htaken
      exact ⟨q, hq, fun _ => ⟨found, hfound, hnode⟩⟩
  have hne : properties ≠ [] := List.ne_nil_of_mem (Dict.mem_of_get?_eq_some hq)
  refine ⟨_, if_neg (by simpa using hne), rfl, fun hrequired => ?_, q, hq, hinherited⟩
  simp [hrequired, Dict.has, hq]

end Schema

namespace Document

open Node

variable {d : Document} {component : Option String} {s : Schema} {location name : String} {n : Node}

theorem building_distinctNames : Building Dict.Distinct Node.DistinctNames where
  empty := List.nodup_nil
  insert _ name n h := Dict.distinct_insert h name n
  bare n _ hproperties hrequired := by
    refine ⟨?_, ?_⟩
    · rw [hproperties]
      exact List.nodup_nil
    · rw [hrequired]
      exact List.nodup_nil
  object _ _ hproperties hrequired := ⟨hproperties, hrequired⟩
  same n m _ hproperties hrequired hn := by
    refine ⟨?_, ?_⟩
    · rw [hproperties]
      exact hn.properties
    · rw [hrequired]
      exact hn.required
  promoted _ _ hn hrequired := ⟨hn.properties, hrequired⟩

theorem closed_distinctNames (hd : d.DistinctNames) : d.Closed Schema.DistinctNames where
  part _ hs _ hplace := distinctNames_of_mem_parts hs hplace
  inherited s location name found hs hfound := by
    obtain ⟨a, ha, -⟩ := firstDeclares_of_inheritedProperty? hfound
    exact ha.distinctNames hd hs

/-- In what a schema becomes, no node has a property twice or requires a name twice. -/
theorem Normalizes.distinctNames (hd : d.DistinctNames) (hs : Schema.DistinctNames (.inline s))
    (h : d.Normalizes component (.inline s) location n) : n.Everywhere Node.DistinctNames := by
  refine h.everywhere building_distinctNames (closed_distinctNames hd) ?_ ?_ hs
  · intro t properties ht hkeys
    rw [Dict.Distinct, hkeys]
    exact ht t (Schema.mem_nestedPlace_inline.2 (Schema.mem_nested_iff.2 (.inl rfl)))
  · exact fun r _ _ => ⟨List.nodup_nil, List.nodup_nil⟩

theorem distinctNames_of_isConjunct {part m : Node} {nullable : Bool}
    (hn : n.Everywhere Node.DistinctNames) (hpart : IsPart nullable part n)
    (hm : m.IsConjunct part) : m.DistinctNames := by
  have hpart : part.Everywhere Node.DistinctNames := by
    cases nullable with
    | true =>
      obtain ⟨docs, rfl⟩ := hpart
      exact hn.item List.mem_cons_self
    | false => exact hpart ▸ hn
  rcases hm with rfl | ⟨-, hm⟩
  · exact hpart.self
  · exact (hpart.item hm).self

/-- The node of an intersection keeps all properties that the schema declares, and those that it
requires and some ancestor declares. A conjunct of the node, null aside, has the property, and requires
it if the schema does. If the schema does not declare it, it is up to documentation what the property
becomes that the first ancestor with it declares. -/
theorem Normalizes.exists_conjunct {branches : List (RefOr Schema)} (hd : d.DistinctNames)
    (hs : Schema.DistinctNames (.inline s)) (hform : s.form = .allOf branches)
    (h : d.Normalizes component (.inline s) location n)
    (hname : (s.property? name).isSome = true ∨ name ∈ s.required ∧
      ∃ t, Relation.TransGen d.IsParent s t ∧ (t.property? name).isSome = true) :
    ∃ part m : Node, IsPart s.isNullable part n ∧ m.IsConjunct part ∧
      (name ∈ s.required → name ∈ m.required) ∧
      ∃ p, Dict.get? m.properties name = some p ∧
        (s.property? name = none → ∃ a place q, d.FirstDeclares s location name a place ∧
          d.Normalizes none place (a.location ++ "/properties/" ++ Pointer.escape name) q ∧
          (p = q ∨ p.structurallyEq q = true)) := by
  have hdistinct := h.distinctNames hd hs
  obtain ⟨steps, h⟩ := normalizes_inline_iff.1 h
  unfold Schema.normalizeLayer at h
  rw [hform] at h
  obtain ⟨items, shape, hitems, hshape, hn⟩ := Schema.intersection_eq_ok.1 h
  obtain ⟨o, rfl, ho, hrequired, q, hq, hinherited⟩ := Schema.exists_ownShape
    (hname.imp_right fun ⟨hname, t, ht, hdeclares⟩ =>
      ⟨hname, isSome_inheritedProperty? ht hdeclares⟩) hshape
  -- The own object is a conjunct, and says something since it has the property.
  have hshapeless : o.isShapeless = false :=
    isShapeless_of_properties_ne_nil (List.ne_nil_of_mem (Dict.mem_of_get?_eq_some hq))
  have hconjunct : (s.intersectionOf (items.flatten ++ [o])).HasConjunct o :=
    hasConjunct_dedupe (by simp) ho hshapeless s.docs
  obtain ⟨part, hpart, m, hm, hshape⟩ := hconjunct.exists_isPart hshapeless s.isNullable
  rw [hn] at hpart
  -- The conjunct may be a branch that is structurally equal to the object, with all its names.
  obtain ⟨hnames, hproperties⟩ := hshape.names (distinctNames_of_isConjunct hdistinct hpart hm)
  obtain ⟨p, hp, heq⟩ := hproperties name q hq
  refine ⟨part, m, hpart, hm, fun hname => hnames name (hrequired hname), p, hp, fun hown => ?_⟩
  obtain ⟨found, hfound, hnode⟩ := hinherited hown
  obtain ⟨a, ha, hlocation⟩ := firstDeclares_of_inheritedProperty? hfound
  exact ⟨a, found.property, q, ha, hlocation ▸ ⟨steps, hnode⟩, heq⟩

/-- An animal, which may have a name. -/
def animalSchema : Schema :=
  { types := [.object], properties := some [("name", .inline { types := [.string] })] }

def animalsDocument : Document :=
  { components := some { schemas := [("Animal", .inline animalSchema)] } }

/-- An animal that must have a name, or null. -/
def petSchema : Schema :=
  { allOf := some [.ref ⟨"#/components/schemas/Animal"⟩], required := ["name"], nullable := true }

/-- What becomes of the pet, null aside. -/
def petNode : Node :=
  composition .and [
    ofReference "#/components/schemas/Animal",
    { type := some .object, properties := [("name", ofType .string)], required := ["name"] }]

theorem normalizes_petSchema :
    animalsDocument.Normalizes none (.inline petSchema) "#"
      (composition .or [petNode, ofType .null]) := by
  have h : (animalsDocument.normalizeWithin 2 none (.inline petSchema) "#").result =
      .ok (Schema.orNull (dedupe petNode)) := by cbv
  have hand : dedupe petNode = petNode :=
    dedupeAs_of_simplified rfl ⟨Nat.le_refl 2, by decide +kernel, by decide +kernel⟩
  have hor : Schema.orNull petNode = composition .or [petNode, ofType .null] :=
    dedupeAs_of_simplified rfl ⟨Nat.le_refl 2, by decide +kernel, by decide +kernel⟩
  refine ⟨2, ?_⟩
  rw [h, hand, hor]

theorem exists_conjunct_petSchema :
    animalsDocument.DistinctNames ∧ Schema.DistinctNames (.inline petSchema) ∧
      animalsDocument.IsParent petSchema animalSchema ∧
      ∃ part m : Node, IsPart true part (composition .or [petNode, ofType .null]) ∧
        m.IsConjunct part ∧ "name" ∈ m.required ∧
        ∃ p, Dict.get? m.properties "name" = some p ∧
          ∃ a place q, animalsDocument.FirstDeclares petSchema "#" "name" a place ∧
            animalsDocument.Normalizes none place
              (a.location ++ "/properties/" ++ Pointer.escape "name") q ∧
            (p = q ∨ p.structurallyEq q = true) := by
  have hd : animalsDocument.DistinctNames := by decide +kernel
  have hs : Schema.DistinctNames (.inline petSchema) := by decide +kernel
  have hresolve : animalsDocument.resolve Schema ⟨"#/components/schemas/Animal"⟩ =
      .ok animalSchema := by cbv
  have hparent : animalsDocument.IsParent petSchema animalSchema :=
    ⟨_, List.mem_singleton_self _, hresolve⟩
  have hrequired : "name" ∈ petSchema.required := List.mem_singleton_self _
  obtain ⟨part, m, hpart, hm, hnames, p, hp, hinherited⟩ :=
    normalizes_petSchema.exists_conjunct hd hs rfl
      (.inr ⟨hrequired, animalSchema, .single hparent, rfl⟩)
  exact ⟨hd, hs, hparent, part, m, hpart, hm, hnames hrequired, p, hp, hinherited rfl⟩

end Document

end ApiShape
