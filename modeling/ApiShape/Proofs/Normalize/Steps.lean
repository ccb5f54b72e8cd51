import ApiShape.Proofs.Normalize.Layer

/-!
# Normalization does not depend on the number of steps

The number of steps only decides whether a normalization ends within them. Once it does, more steps
give the same node, so a schema at a location has at most one node.
-/

namespace ApiShape

/-- The second normalizer gives whatever node the first gives. -/
def Normalizer.Within (normalize normalize' : Normalizer) : Prop :=
  ∀ place location, (normalize place location).Within (normalize' place location)

namespace Schema

variable {d : Document} {normalize normalize' : Normalizer} {s : Schema} {location : String}

theorem within_propertyNodes (h : normalize.Within normalize') :
    (s.propertyNodes normalize location).Within (s.propertyNodes normalize' location) := by
  refine Report.Within.traverse ?_ _
  rintro ⟨name, place⟩
  exact (h place _).bind fun _ => Report.Within.refl _

theorem within_objectNode (h : normalize.Within normalize') (properties : Dict Node) :
    (s.objectNode normalize location properties).Within
      (s.objectNode normalize' location properties) := by
  refine Report.Within.bind ?_ fun _ => Report.Within.refl _
  unfold additionalNode
  split
  · exact Report.Within.refl _
  · exact Report.Within.refl _
  · exact Report.Within.refl _
  · exact (h _ _).bind fun _ => Report.Within.refl _

theorem within_arrayNode (h : normalize.Within normalize') :
    (s.arrayNode normalize location).Within (s.arrayNode normalize' location) := by
  intro n hn
  rw [arrayNode_eq_ok] at hn ⊢
  rcases hn with hnone | ⟨place, m, hitems, hm, hn⟩
  · exact .inl hnone
  · exact .inr ⟨place, m, hitems, h _ _ _ hm, hn⟩

theorem within_bareNode (h : normalize.Within normalize') (type : SchemaType) :
    (s.bareNode normalize location type).Within (s.bareNode normalize' location type) := by
  cases type with
  | array => exact within_arrayNode h
  | object => exact (within_propertyNodes h).bind fun _ => within_objectNode h _
  | _ => exact Report.Within.refl _

theorem within_typed (h : normalize.Within normalize') :
    (s.typed normalize location).Within (s.typed normalize' location) := by
  refine Report.Within.bind (Report.Within.traverse ?_ _) fun _ => Report.Within.refl _
  exact fun type => (within_bareNode h type).bind fun _ => Report.Within.refl _

theorem within_allOfBranch (h : normalize.Within normalize') (component : Option String) :
    ∀ branch, (s.allOfBranch d normalize component location branch).Within
      (s.allOfBranch d normalize' component location branch)
  | (.inline _, _) => (h _ _).bind fun _ => Report.Within.refl _
  | (.ref _, _) => (h _ _).bind fun _ => Report.Within.refl _

theorem within_takeOver (h : normalize.Within normalize') (properties : Dict Node)
    (names : List String) :
    (s.takeOver d normalize location properties names).Within
      (s.takeOver d normalize' location properties names) := by
  induction names generalizing properties with
  | nil => exact Report.Within.refl _
  | cons name rest ih =>
    refine Report.Within.bind ?_ fun next => ih next
    unfold inheritedNode
    split
    · exact Report.Within.refl _
    · split
      · exact Report.Within.refl _
      · exact (h _ _).bind fun _ => Report.Within.refl _

theorem within_ownShape (h : normalize.Within normalize') :
    (s.ownShape d normalize location).Within (s.ownShape d normalize' location) := by
  unfold ownShape
  split
  · exact (within_propertyNodes h).bind fun _ => (within_takeOver h _ _).bind fun _ =>
      (within_objectNode h _).bind fun _ => Report.Within.refl _
  · exact Report.Within.refl _

theorem within_union (h : normalize.Within normalize') (kind : UnionKind)
    (branches : List (RefOr Schema)) :
    (s.union normalize kind location branches).Within
      (s.union normalize' kind location branches) := by
  refine Report.Within.bind (Report.Within.traverse ?_ _) fun _ => ?_
  · rintro ⟨place, i⟩
    exact (h _ _).bind fun _ => Report.Within.refl _
  · dsimp only
    split
    · exact (within_propertyNodes h).bind fun _ => (within_objectNode h _).bind fun _ =>
        Report.Within.refl _
    · exact Report.Within.refl _

theorem within_normalizeLayer (h : normalize.Within normalize') (component : Option String) :
    (s.normalizeLayer d normalize component location).Within
      (s.normalizeLayer d normalize' component location) := by
  unfold normalizeLayer
  split
  · exact Report.Within.refl _
  · exact (Report.Within.traverse (within_allOfBranch h component) _).bind fun _ =>
      (within_ownShape h).bind fun _ => Report.Within.refl _
  · exact within_union h _ _
  · exact within_union h _ _
  · exact within_typed h
  · exact Report.Within.refl _

end Schema

namespace Document

theorem within_normalizeWithin_succ (d : Document) (steps : Nat) (component : Option String) :
    Normalizer.Within (d.normalizeWithin steps component)
      (d.normalizeWithin (steps + 1) component) := by
  induction steps generalizing component with
  | zero =>
    intro place location n h
    -- Without any step only a reference gives a node.
    cases place with
    | ref r =>
      rw [normalizeWithin] at h ⊢
      exact h
    | inline s =>
      rw [normalizeWithin] at h
      exact absurd h Report.fail_ne_ok
  | succ steps ih =>
    intro place location n h
    cases place with
    | ref r =>
      rw [normalizeWithin] at h ⊢
      exact h
    | inline s =>
      rw [normalizeWithin] at h ⊢
      exact Schema.within_normalizeLayer (ih none) component n h

theorem within_normalizeWithin (d : Document) {steps steps' : Nat} (hle : steps ≤ steps')
    (component : Option String) :
    Normalizer.Within (d.normalizeWithin steps component) (d.normalizeWithin steps' component) := by
  induction hle with
  | refl => exact fun _ _ => Report.Within.refl _
  | step _ ih =>
    intro place location n h
    exact d.within_normalizeWithin_succ _ component place location n (ih place location n h)

/-- The schema at a place, which lies at a location, becomes the node, as the schema of a named
component or not. -/
def Normalizes (d : Document) (component : Option String) (place : RefOr Schema)
    (location : String) (n : Node) : Prop :=
  ∃ steps, (d.normalizeWithin steps component place location).result = .ok n

theorem Normalizes.unique {d : Document} {component : Option String} {place : RefOr Schema}
    {location : String} {n m : Node} (hn : d.Normalizes component place location n)
    (hm : d.Normalizes component place location m) : n = m := by
  -- Both nodes are there within the larger number of steps.
  obtain ⟨k, hk⟩ := hn
  obtain ⟨l, hl⟩ := hm
  have hk' := d.within_normalizeWithin (Nat.le_max_left k l) component place location n hk
  have hl' := d.within_normalizeWithin (Nat.le_max_right k l) component place location m hl
  exact Except.ok.inj (hk'.symm.trans hl')

theorem Normalizes.of_normalizeSchema {d : Document} {place : RefOr Schema} {location : String}
    {n : Node} (h : (d.normalizeSchema place location).result = .ok n) :
    d.Normalizes none place location n :=
  ⟨_, h⟩

theorem Normalizes.of_normalizeComponent {d : Document} {name : String} {place : RefOr Schema}
    {location : String} {n : Node}
    (h : (d.normalizeComponent name place location).result = .ok n) :
    d.Normalizes (some name) place location n :=
  ⟨_, h⟩

/-- A reference becomes the node that stands for it, if it resolves. -/
theorem normalizes_ref_iff {d : Document} {component : Option String} {r : Ref} {location : String}
    {n : Node} :
    d.Normalizes component (.ref r) location n ↔
      (∃ s, d.resolve Schema r = .ok s) ∧ n = .ofReference r.normalized := by
  have hnode : (d.referenceNode r).result = .ok n ↔
      (∃ s, d.resolve Schema r = .ok s) ∧ n = .ofReference r.normalized := by
    unfold referenceNode
    rw [Report.bind_eq_ok]
    simp only [Report.pure_eq_ok]
    constructor
    · rintro ⟨s, hs, rfl⟩
      cases hr : d.resolve Schema r with
      | error e =>
        unfold resolved at hs
        rw [hr] at hs
        cases hs
      | ok s' => exact ⟨⟨s', rfl⟩, rfl⟩
    · rintro ⟨⟨s, hs⟩, rfl⟩
      refine ⟨s, ?_, rfl⟩
      unfold resolved
      rw [hs]
      rfl
  constructor
  · rintro ⟨steps, h⟩
    rw [normalizeWithin] at h
    exact hnode.1 h
  · intro h
    refine ⟨0, ?_⟩
    rw [normalizeWithin]
    exact hnode.2 h

/-- A schema that stands right there becomes what one layer makes of the nodes of its parts. -/
theorem normalizes_inline_iff {d : Document} {component : Option String} {s : Schema}
    {location : String} {n : Node} :
    d.Normalizes component (.inline s) location n ↔
      ∃ steps, (s.normalizeLayer d (d.normalizeWithin steps none) component location).result =
        .ok n := by
  constructor
  · rintro ⟨steps, h⟩
    cases steps with
    | zero =>
      rw [normalizeWithin] at h
      exact absurd h Report.fail_ne_ok
    | succ steps =>
      rw [normalizeWithin] at h
      exact ⟨steps, h⟩
  · rintro ⟨steps, h⟩
    refine ⟨steps + 1, ?_⟩
    rw [normalizeWithin]
    exact h

/-- What holds of the nodes of references, and of the node of a schema whenever it holds of the
nodes of its parts, holds of every node that a schema becomes. -/
theorem Normalizes.induction {d : Document} {P : Node → Prop}
    (reference : ∀ r, (∃ s, d.resolve Schema r = .ok s) → P (.ofReference r.normalized))
    (layer : ∀ steps component s location n,
      (∀ place location' m,
        (d.normalizeWithin steps none place location').result = .ok m → P m) →
      (Schema.normalizeLayer d (d.normalizeWithin steps none) component s location).result = .ok n →
      P n)
    {component : Option String} {place : RefOr Schema} {location : String} {n : Node}
    (h : d.Normalizes component place location n) : P n := by
  obtain ⟨steps, h⟩ := h
  induction steps generalizing component place location n with
  | zero =>
    cases place with
    | ref r =>
      obtain ⟨hr, rfl⟩ := normalizes_ref_iff.1 ⟨0, h⟩
      exact reference r hr
    | inline s =>
      rw [normalizeWithin] at h
      exact absurd h Report.fail_ne_ok
  | succ steps ih =>
    cases place with
    | ref r =>
      obtain ⟨hr, rfl⟩ := normalizes_ref_iff.1 ⟨steps + 1, h⟩
      exact reference r hr
    | inline s =>
      rw [normalizeWithin] at h
      exact layer steps component s location n (fun _ _ _ hm => ih hm) h

end Document

end ApiShape
