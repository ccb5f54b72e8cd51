import ApiShape.Proofs.Graph.Inlining
import Mathlib

/-!
# Inlining keeps what nodes mean

Whatever nodes mean, as long as documentation does not matter to it, as it goes by the fields of a
node and the meanings of the nodes inside, and as a reference means what its target means: a schema
means the same after its references are replaced.
-/

namespace ApiShape

/-- The fields of a node, without the nodes inside it. -/
def Node.outline (n : Node) : Node :=
  n.mapChildren fun _ => .empty

namespace Graph

universe u

/-- What nodes mean: documentation adds nothing, the fields of a node and what the nodes right
inside it mean decide, and a reference to a schema means what the schema means. -/
structure Semantics (g : Graph) (M : Type u) where
  meaning : Node → M
  documentation : ∀ n docs, meaning { n with docs } = meaning n
  fields : ∀ n m : Node, n.outline = m.outline →
    n.children.map meaning = m.children.map meaning → meaning n = meaning m
  reference : ∀ reference docs name target,
    Node.componentName? { reference := some reference, docs } = some name →
    g.schemas.get? name = some target →
    meaning { reference := some reference, docs } = meaning target

variable {g : Graph} {M : Type u} {path around : List String} {n m last : Node} {refs : List Node}

theorem Semantics.meaning_mapChildren (S : g.Semantics M) {f : Node → Node}
    (h : ∀ c ∈ n.children, S.meaning (f c) = S.meaning c) :
    S.meaning (n.mapChildren f) = S.meaning n := by
  have houtline : (n.mapChildren f).outline = n.outline := by
    simp only [Node.outline, Node.mapChildren, List.map_map, Option.map_map]
    rfl
  refine S.fields _ _ houtline ?_
  rw [Node.children_mapChildren, List.map_map]
  exact List.map_congr_left h

/-- The last node of a trail means what the first one does. -/
theorem Trail.meaning_eq (hg : g.BareReferences) (S : g.Semantics M)
    (h : g.Trail path n refs around last) (hn : n.BareReferences) :
    S.meaning last = S.meaning n := by
  induction h with
  | stop => rfl
  | @follow path n name target refs around last hf _ ih =>
    rw [ih (hg name target hf.schema)]
    -- A reference to a schema has documentation besides, which does not matter.
    have hr := Node.isSome_reference_of_componentName? hf.componentName
    obtain ⟨reference, href⟩ := Option.isSome_iff_exists.1 hr
    have hname := hf.componentName
    have heq := hn.eq hr
    rw [href] at heq
    rw [heq] at hname ⊢
    exact (S.reference reference n.docs name target hname hf.schema).symm

theorem Trail.bareReferences (hg : g.BareReferences) (h : g.Trail path n refs around last)
    (hn : n.BareReferences) : last.BareReferences :=
  h.last_induction (P := fun _ n => n.BareReferences) hn
    fun _ _ name target _ hf => hg name target hf.schema

theorem Inlines.meaning_eq (hg : g.BareReferences) (S : g.Semantics M) (h : g.Inlines path n m)
    (hn : n.BareReferences) : S.meaning m = S.meaning n := by
  induction h with
  | intro f htrail _ ih =>
    have hlast := htrail.bareReferences hg hn
    rw [S.documentation, S.meaning_mapChildren fun c hc => ih c hc (hlast.of_mem_children hc)]
    exact htrail.meaning_eq hg S hn

/-- A schema with its references replaced means what the schema means. Every node of it stands where
references have led to some last node, and has the documentation that comes first on the way. -/
theorem inline_meaning (hg : g.BareReferences) {name : String}
    (hn : g.schemas.get? name = some n) :
    ∃ m, g.inline name = some m ∧
      (∀ (M : Type u) (S : g.Semantics M), S.meaning m = S.meaning n) ∧
      (∀ x ∈ m.nested, ∃ refs around last, g.Stands [name] n refs around last x) ∧
      ∀ refs around last x, g.Stands [name] n refs around last x →
        x.docs = .first (refs.map (·.docs) ++ [last.docs]) := by
  obtain ⟨m, hm, h⟩ := exists_inline hg hn
  refine ⟨m, hm, ?_, ?_, ?_⟩
  · exact fun M S => h.meaning_eq hg S (hg name n hn)
  · exact fun x hx => h.mem_nested_iff.1 hx
  · intro refs around last x hx
    obtain ⟨f, rfl⟩ := hx.eq_last
    rfl

/-! ## What schemas mention -/

/-- A type occurs in a node, inside it, or in a schema that it refers to. -/
inductive Mentions (g : Graph) (type : NodeType) : Node → Prop
  | type {n : Node} (h : n.type = some type) : Mentions g type n
  | inside {n c : Node} (hc : c ∈ n.children) (h : Mentions g type c) : Mentions g type n
  | target {n : Node} {name : String} {target : Node} (hname : n.componentName? = some name)
      (htarget : g.schemas.get? name = some target) (h : Mentions g type target) :
      Mentions g type n

/-- What a node mentions goes by its fields and by what the nodes inside it mention. -/
theorem Mentions.of_fields {type : NodeType} (houtline : n.outline = m.outline)
    (hchildren : n.children.map (Mentions g type) = m.children.map (Mentions g type))
    (h : Mentions g type n) : Mentions g type m := by
  have htype : n.outline.type = m.outline.type := by rw [houtline]
  have hreference : n.outline.reference = m.outline.reference := by rw [houtline]
  change n.type = m.type at htype
  change n.reference = m.reference at hreference
  have hname : n.componentName? = m.componentName? := by
    unfold Node.componentName?
    rw [hreference]
  cases h with
  | type h => exact .type (htype.symm.trans h)
  | target h htarget ht => exact .target (hname.symm.trans h) htarget ht
  | inside hc h =>
    have hmem := List.mem_map_of_mem (f := Mentions g type) hc
    rw [hchildren] at hmem
    obtain ⟨c, hc, heq⟩ := List.mem_map.1 hmem
    exact .inside hc (heq ▸ h)

/-- To mention a type is a meaning. -/
def mentions (g : Graph) (type : NodeType) : g.Semantics Prop where
  meaning := g.Mentions type
  documentation n docs := by
    have hname : Node.componentName? { n with docs } = n.componentName? := rfl
    refine propext ⟨fun h => ?_, fun h => ?_⟩
    · cases h with
      | type h => exact .type h
      | inside hc h => exact .inside hc h
      | target h htarget ht => exact .target (hname ▸ h) htarget ht
    · cases h with
      | type h => exact .type h
      | inside hc h => exact .inside hc h
      | target h htarget ht => exact .target (hname ▸ h) htarget ht
  fields n m houtline hchildren :=
    propext ⟨.of_fields houtline hchildren, .of_fields houtline.symm hchildren.symm⟩
  reference reference docs name target hname htarget := by
    refine propext ⟨fun h => ?_, .target hname htarget⟩
    cases h with
    | type h => cases h
    | inside hc => cases hc
    | target hname' htarget' h =>
      cases hname.symm.trans hname'
      cases htarget.symm.trans htarget'
      exact h

/-- A grove, which is a tree under another title. -/
def grove : Node :=
  { reference := some "#/components/schemas/Tree", docs := { title := some "Grove" } }

/-- A tree, which consists of trees. -/
def tree : Node :=
  { type := some .object
    properties := [("trees", {
      type := some .array
      items := [.ofReference "#/components/schemas/Tree"] })]
    docs := { title := some "Tree", description := some "Has trees" } }

/-- Groves and trees. -/
def groves : Graph :=
  ⟨[("Grove", grove), ("Tree", tree)]⟩

theorem groves_bareReferences : groves.BareReferences := by
  intro name n hn m hm hr
  have hmem := Dict.mem_of_get?_eq_some hn
  simp only [groves, List.mem_cons, List.not_mem_nil, or_false, Prod.mk.injEq] at hmem
  rcases hmem with ⟨-, rfl⟩ | ⟨-, rfl⟩ <;>
    simp only [grove, tree, Node.nested_eq, Node.children, Node.ofReference, List.map_nil,
      List.map_cons, List.append_nil, List.nil_append, Option.toList_none, List.flatMap_nil,
      List.flatMap_cons, List.mem_cons, List.not_mem_nil, or_false] at hm
  · subst hm
    rfl
  · rcases hm with rfl | rfl | rfl
    · cases hr
    · cases hr
    · rfl

/-- The tree takes the place of the grove, with the title of the grove. -/
theorem inline_meaning_groves :
    groves.BareReferences ∧ groves.schemas.get? "Grove" = some grove ∧
      ∃ m, groves.inline "Grove" = some m ∧
        m = { tree with docs := { title := some "Grove", description := some "Has trees" } } ∧
        (∀ type, groves.Mentions type m ↔ groves.Mentions type grove) ∧
        ∀ x ∈ m.nested, ∃ refs around last, groves.Stands ["Grove"] grove refs around last x ∧
          x.docs = .first (refs.map (·.docs) ++ [last.docs]) := by
  have hget : groves.schemas.get? "Grove" = some grove := by cbv
  obtain ⟨m, hm, hmeaning, hplaces, hdocs⟩ := inline_meaning groves_bareReferences hget
  have hinlined : groves.inline "Grove" =
      some { tree with docs := { title := some "Grove", description := some "Has trees" } } := by
    cbv
  refine ⟨groves_bareReferences, hget, m, hm, ?_, fun type => ?_, fun x hx => ?_⟩
  · exact Option.some.inj (hm.symm.trans hinlined)
  · exact iff_of_eq (hmeaning Prop (groves.mentions type))
  · obtain ⟨refs, around, last, hx⟩ := hplaces x hx
    exact ⟨refs, around, last, hx, hdocs refs around last x hx⟩

end Graph

end ApiShape
