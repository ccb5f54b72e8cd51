import ApiShape.Proofs.Normalize.Normal

/-!
# Compositions of normalized documents

Which compositions of a normalized document are simplified: all but the intersections of a union
with the object that it declares where the union came to nothing or to that object. Enums, which are
not simplified, are left aside.
-/

namespace ApiShape

namespace Node

variable {Shaped : Node → Node → Prop} {n union shape : Node} {operator : Operator}

/-- In a simplified pair the first item says something, and something else than the second. -/
theorem Simplified.pair (h : Simplified operator [union, shape]) :
    union.isEmpty = false ∧ union.structurallyEq shape = false := by
  have hunion := h.not_isDroppable union List.mem_cons_self
  have hpair := h.pairwise
  unfold isDroppable at hunion
  rw [List.pairwise_pair] at hpair
  exact ⟨(Bool.or_eq_false_iff.1 hunion).1, hpair⟩

theorem simplified_of_pair (hbare : union.isBareUnknown = false) (hproperties : shape.properties ≠ [])
    (hempty : union.isEmpty = false) (hne : union.structurallyEq shape = false) :
    Simplified .and [union, shape] := by
  refine ⟨Nat.le_refl 2, ?_, ?_⟩
  · intro m hm
    rcases List.mem_cons.1 hm with rfl | hm
    · unfold isDroppable
      rw [hempty, hbare]
      rfl
    · rw [List.mem_singleton.1 hm]
      exact isDroppable_of_properties_ne_nil hproperties
  · rw [List.pairwise_pair]
    exact hne

end Node

namespace Document

open Node

/-- A composition at any depth of a normalized document is simplified, unless it is the intersection
of a union with the object that the union declares, and the union is empty or that object. -/
theorem simplified_iff_of_mem_nested {d : Document} {config : Config} {r : Normalized}
    (h : d.normalize config = .ok r) :
    ∀ n ∈ r.model.nested, ∀ operator, n.operator = some operator → n.type ≠ some .enum →
      (Simplified operator n.items ↔
        ¬ ∃ union shape, n.items = [union, shape] ∧ d.JoinsShape union shape ∧
          (union.isEmpty = true ∨ union.structurallyEq shape = true)) := by
  intro n hn operator ho htype
  constructor
  · rintro hs ⟨union, shape, hitems, -, hredundant⟩
    rw [hitems] at hs
    rw [hs.pair.1, hs.pair.2] at hredundant
    rcases hredundant with h | h <;> cases h
  · -- By the grammar the node is simplified, or joins a union with its object.
    intro hnot
    have hnormal := normal_of_mem_nested h n hn
    cases hnormal with
    | composition operator' items docs hitems hs =>
      cases ho
      exact hs
    | shaped union shape docs hshaped hunion hshape hbare htype hproperties =>
      cases ho
      refine simplified_of_pair hbare hproperties ?_ ?_
      · rw [Bool.eq_false_iff]
        exact fun hempty => hnot ⟨union, shape, rfl, hshaped, .inl hempty⟩
      · rw [Bool.eq_false_iff]
        exact fun heq => hnot ⟨union, shape, rfl, hshaped, .inr heq⟩
    | enum => exact absurd rfl htype
    | _ => cases ho

/-- A union whose one branch says nothing, with a property of its own. -/
def blankUnionDocument : Document :=
  { components := some {
      schemas := [
        ("X", .inline {
          anyOf := some [.inline {}]
          properties := some [("a", .inline { types := [.string] })] })] } }

/-- The object that the union declares. -/
def blankUnionShape : Node :=
  { type := some .object, properties := [("a", .ofType .string)] }

/-- The union comes to the empty node, and stays an item of the intersection. -/
def blankUnionModel : Model :=
  { schemas := [("X", composition .and [empty, blankUnionShape])] }

theorem normalize_blankUnionDocument :
    blankUnionDocument.normalize {} = .ok ⟨blankUnionModel, []⟩ := by
  have hunion : dedupe (composition .or [ofType .unknown]) = empty :=
    dedupeAs_of_single (m := ofType .unknown) rfl rfl
  have h : blankUnionDocument.normalize {} = .ok ⟨{ schemas :=
      [("X", composition .and [dedupe (composition .or [ofType .unknown]), blankUnionShape])] },
      []⟩ := rfl
  rw [h, hunion]
  rfl

theorem simplified_iff_of_mem_nested_blankUnionModel :
    blankUnionDocument.normalize {} = .ok ⟨blankUnionModel, []⟩ ∧
      ∀ n ∈ blankUnionModel.nested, ∀ operator, n.operator = some operator →
        n.type ≠ some .enum →
        (Simplified operator n.items ↔
          ¬ ∃ union shape, n.items = [union, shape] ∧
            blankUnionDocument.JoinsShape union shape ∧
            (union.isEmpty = true ∨ union.structurallyEq shape = true)) :=
  ⟨normalize_blankUnionDocument, simplified_iff_of_mem_nested normalize_blankUnionDocument⟩

/-- Not all compositions of a normalized document are simplified. -/
theorem not_simplified_blankUnionModel :
    blankUnionDocument.normalize {} = .ok ⟨blankUnionModel, []⟩ ∧
      ¬ ∀ n ∈ blankUnionModel.nested, ∀ operator, n.operator = some operator →
        n.type ≠ some .enum → Simplified operator n.items := by
  refine ⟨normalize_blankUnionDocument, fun h => ?_⟩
  have hs : Simplified .and [empty, blankUnionShape] :=
    h (composition .and [empty, blankUnionShape]) List.mem_cons_self .and rfl
      (fun htype => by cases htype)
  cases hs.not_isDroppable empty List.mem_cons_self

end Document

end ApiShape
