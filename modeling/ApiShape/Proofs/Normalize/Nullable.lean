import ApiShape.Proofs.Node.Interpretation
import ApiShape.Proofs.Normalize.Layer
import ApiShape.Proofs.Normalize.Steps

/-!
# Null after normalization

The node of a nullable schema accepts null, whichever way the schema says so, unless the schema is a
union with properties of its own: those are required of null as well.
-/

namespace ApiShape

namespace Node

/-- The node accepts null by itself: it says nothing, its type allows null, or it stands for a
component that is assumed to accept null. -/
def AloneNull (assumed : String → Prop) (n : Node) : Prop :=
  n.isEmpty = true ∨ n.type = some .null ∨ n.type = some .unknown ∨
    ∃ reference, n.reference = some reference ∧ assumed reference

/-- The node accepts null, given the references that are assumed to. -/
def AcceptsNull (assumed : String → Prop) (n : Node) : Prop :=
  n.Accepts (AloneNull assumed)

variable {assumed : String → Prop} {n : Node} {docs : Docs} {items : List Node}

theorem acceptsNull_of_type (h : n.type = some .null) : n.AcceptsNull assumed :=
  .alone (.inr (.inl h))

/-- An object accepts no null. -/
theorem not_acceptsNull_of_object (htype : n.type = some .object) (hr : n.reference = none)
    (ho : n.operator = none) : ¬ n.AcceptsNull assumed := by
  intro h
  cases h with
  | alone h =>
    rcases h with h | h | h | ⟨reference, h, _⟩
    · unfold isEmpty at h
      rw [htype] at h
      cases h
    · rw [htype] at h
      cases h
    · rw [htype] at h
      cases h
    · rw [hr] at h
      cases h
  | union ho' =>
    rw [ho] at ho'
    cases ho'
  | intersection ho' =>
    rw [ho] at ho'
    cases ho'

/-- An intersection with an object accepts no null. -/
theorem not_acceptsNull_of_shape {union shape : Node} (htype : shape.type = some .object)
    (hr : shape.reference = none) (ho : shape.operator = none) :
    ¬ (composition .and [union, shape]).AcceptsNull assumed := by
  intro h
  cases h with
  | alone h =>
    rcases h with h | h | h | ⟨reference, h, _⟩ <;> cases h
  | union ho' => cases ho'
  | intersection _ h =>
    exact not_acceptsNull_of_object htype hr ho
      (h shape (List.mem_cons_of_mem _ List.mem_cons_self))

/-- What is structurally equal to null is of type null and no composition. -/
theorem fields_of_structurallyEq_null (h : n.structurallyEq (ofType .null) = true) :
    n.type = some .null ∧ n.operator = none := by
  obtain ⟨htype, hoperator, -, -⟩ := fields_of_structurallyEq h
  exact ⟨htype, hoperator⟩

/-- A union with null accepts null after it is simplified. -/
theorem acceptsNull_dedupe_union (h : ofType .null ∈ items) :
    AcceptsNull assumed (dedupe { composition .or items with docs }) := by
  have hkept : isDroppable .or (ofType .null) = false := rfl
  have hsurvivor : ∃ m ∈ survivors .or items, m.type = some .null ∧ m.operator = none := by
    rcases exists_mem_survivors h hkept with hm | ⟨m, hm, heq⟩
    · exact ⟨_, hm, rfl, rfl⟩
    · exact ⟨m, hm, fields_of_structurallyEq_null heq⟩
  obtain ⟨m, hm, htype, hoperator⟩ := hsurvivor
  unfold dedupe
  rcases hs : survivors .or items with _ | ⟨m', _ | ⟨m'', rest⟩⟩
  · rw [hs] at hm
    cases hm
  · -- Null is all that is left.
    rw [hs, List.mem_singleton] at hm
    subst hm
    have hbare : m.isBareUnknown = false := by
      unfold isBareUnknown
      rw [htype]
      rfl
    rw [dedupeAs_of_single_leaf rfl hs hbare hoperator]
    exact acceptsNull_of_type htype
  · have htwo : 2 ≤ (survivors .or items).length := by
      rw [hs]
      exact Nat.le_add_left 2 rest.length
    rw [dedupeAs_of_two_le rfl htwo]
    exact .union rfl hm (acceptsNull_of_type htype)

end Node

namespace Schema

open Node

variable {d : Document} {normalize : Normalizer} {s : Schema} {location : String} {n : Node}
  {assumed : String → Prop}

theorem null_mem_of_isNullable (h : s.isNullable = true) (nodes : List Node) :
    ofType .null ∈ nodes ++ if s.isNullable then [ofType .null] else [] := by
  rw [h]
  exact List.mem_append_right nodes List.mem_cons_self

theorem acceptsNull_typed (hnull : s.isNullable = true)
    (h : (s.typed normalize location).result = .ok n) : n.AcceptsNull assumed := by
  obtain ⟨nodes, _, rfl⟩ := typed_eq_ok.1 h
  unfold typedOf
  split
  · exact acceptsNull_of_type rfl
  · rename_i hnot _
    rw [hnull] at hnot
    cases hnot
  · exact acceptsNull_dedupe_union (null_mem_of_isNullable hnull _)

theorem acceptsNull_intersection {component : Option String} {branches : List (RefOr Schema)}
    (hnull : s.isNullable = true)
    (h : (s.intersection d normalize component location branches).result = .ok n) :
    n.AcceptsNull assumed := by
  obtain ⟨items, shape, _, _, rfl⟩ := intersection_eq_ok.1 h
  rw [hnull]
  exact acceptsNull_dedupe_union (List.mem_cons_of_mem _ List.mem_cons_self)

/-- A union lets null in before it is intersected with its own object. -/
theorem acceptsNull_union_iff {kind : UnionKind} {branches : List (RefOr Schema)}
    (hnull : s.isNullable = true)
    (h : (s.union normalize kind location branches).result = .ok n) :
    n.AcceptsNull assumed ↔ s.properties.getD [] = [] := by
  by_cases hp : s.properties.getD [] = []
  · obtain ⟨members, _, rfl⟩ := union_eq_ok_of_nil hp h
    exact iff_of_true (acceptsNull_dedupe_union (null_mem_of_isNullable hnull _)) hp
  · -- The object beside the union accepts no null.
    obtain ⟨members, shape, _, hshape, _, rfl⟩ := union_eq_ok_of_ne_nil hp h
    obtain ⟨properties, _, hobject⟩ := bareNode_object_eq_ok.1 hshape
    obtain ⟨additional, _, rfl⟩ := objectNode_eq_ok.1 hobject
    exact iff_of_false (not_acceptsNull_of_shape rfl rfl rfl) hp

/-- Every other form lets null in last. -/
theorem acceptsNull_normalizeLayer {component : Option String} (hnull : s.isNullable = true)
    (henum : s.enum = none) (hbranches : s.unionBranches? = none)
    (h : (s.normalizeLayer d normalize component location).result = .ok n) :
    n.AcceptsNull assumed := by
  unfold unionBranches? at hbranches
  unfold normalizeLayer at h
  cases hform : s.form with
  | enum values => exact absurd hform (form_ne_enum henum values)
  | allOf branches =>
    rw [hform] at h
    exact acceptsNull_intersection hnull h
  | anyOf branches =>
    rw [hform] at hbranches
    cases hbranches
  | oneOf branches =>
    rw [hform] at hbranches
    cases hbranches
  | typed =>
    rw [hform] at h
    exact acceptsNull_typed hnull h
  | untyped =>
    rw [hform] at h
    rw [← Report.pure_eq_ok.1 h]
    exact .alone (.inr (.inr (.inl rfl)))

end Schema

namespace Document

open Node

/-- The node of a nullable schema that is no enum accepts null, unless the schema is a union that
declares properties. -/
theorem acceptsNull_iff_of_normalizes {d : Document} {component : Option String} {s : Schema}
    {location : String} {n : Node} {assumed : String → Prop}
    (h : d.Normalizes component (.inline s) location n) (hnull : s.isNullable = true)
    (henum : s.enum = none) :
    n.AcceptsNull assumed ↔ s.unionBranches? = none ∨ s.properties.getD [] = [] := by
  obtain ⟨steps, h⟩ := normalizes_inline_iff.1 h
  cases hbranches : s.unionBranches? with
  | none => exact iff_of_true (Schema.acceptsNull_normalizeLayer hnull henum hbranches h) (.inl rfl)
  | some union =>
    rw [Schema.normalizeLayer_of_unionBranches? hbranches] at h
    rw [Schema.acceptsNull_union_iff hnull h]
    exact ⟨.inr, fun hp => hp.resolve_left nofun⟩

/-- A string or null, with a property of its own. -/
def nullableUnion : Schema :=
  { anyOf := some [.inline { types := [.string] }]
    properties := some [("a", .inline { types := [.string] })]
    nullable := true }

/-- Null is let in among the branches, not besides the object. -/
def nullableUnionNode : Node :=
  composition .and
    [composition .or [ofType .string, ofType .null],
      { type := some .object, properties := [("a", ofType .string)] }]

theorem normalizes_nullableUnion (d : Document) (location : String) :
    d.Normalizes none (.inline nullableUnion) location nullableUnionNode := by
  refine ⟨2, ?_⟩
  have hsimplified : Simplified .or [ofType .string, ofType .null] := by
    refine ⟨Nat.le_refl 2, ?_, ?_⟩
    · intro m hm
      rcases List.mem_cons.1 hm with rfl | hm
      · rfl
      · rw [List.mem_singleton.1 hm]
        rfl
    · rw [List.pairwise_pair, ofType, structurallyEq]
      rfl
  have h : (d.normalizeWithin 2 none (.inline nullableUnion) location).result =
      .ok (composition .and [dedupe (composition .or [ofType .string, ofType .null]),
        { type := some .object, properties := [("a", ofType .string)] }]) := rfl
  rw [h, dedupe, dedupeAs_of_simplified rfl hsimplified]
  rfl

theorem acceptsNull_iff_of_normalizes_nullableUnion :
    nullableUnionNode.AcceptsNull (fun _ => True) ↔
      nullableUnion.unionBranches? = none ∨ nullableUnion.properties.getD [] = [] :=
  acceptsNull_iff_of_normalizes (normalizes_nullableUnion {} "#") rfl rfl

/-- The object beside the union keeps null out. -/
theorem not_acceptsNull_nullableUnion :
    nullableUnion.isNullable = true ∧
      Document.Normalizes {} none (.inline nullableUnion) "#" nullableUnionNode ∧
      ¬ nullableUnionNode.AcceptsNull fun _ => True := by
  refine ⟨rfl, normalizes_nullableUnion {} "#", ?_⟩
  exact not_acceptsNull_of_shape rfl rfl rfl

end Document

end ApiShape
