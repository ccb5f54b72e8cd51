import ApiShape.Proofs.Node.Normal
import ApiShape.Proofs.Normalize.Document
import ApiShape.Proofs.Normalize.Enumeration

/-!
# Normalization gives normal nodes

Each form of a schema leads to a node of the grammar if the schemas right inside it do. So the
schemas of a document do, and with them all the nodes at any depth of a normalized document.
-/

namespace ApiShape

/-- The nodes that the normalizer gives are normal, and references become references. -/
structure Normalizer.Lawful (normalize : Normalizer) (Shaped : Node → Node → Prop) : Prop where
  normal : ∀ place location n, (normalize place location).result = .ok n → n.Normal Shaped
  reference : ∀ r location n, (normalize (.ref r) location).result = .ok n →
    ∃ reference, n = .ofReference reference

namespace Schema

open Node

variable {d : Document} {normalize : Normalizer} {Shaped : Node → Node → Prop} {s : Schema}
  {location : String} {n : Node}

/-! ## Enums -/

theorem isLiteral_literal {i : Nat} {nullable : Bool} {type : NodeType} {value : Json}
    (h : literalType? nullable value = some type) : (s.literal i type value).IsLiteral := by
  refine ⟨type, value, _, ?_, rfl⟩
  unfold literalType? at h
  split at h
  · cases h
    rfl
  · cases h
    rfl
  · cases h
    rfl
  · split at h
    · cases h
      rfl
    · cases h
  · cases h
  · cases h

theorem isLiteral_of_mem_literals {ε : Type} {i : Nat} {values : List Json} {items : List Node}
    (h : (s.literals location i values : Report ε (List Node)).result = .ok items) :
    ∀ m ∈ items, m.IsLiteral := by
  rw [literals_eq] at h
  intro m hm
  rw [← Except.ok.inj h] at hm
  obtain ⟨value, -, hvalue⟩ := List.mem_filterMap.1 hm
  obtain ⟨type, htype, rfl⟩ := Option.map_eq_some_iff.1 hvalue
  exact isLiteral_literal htype

theorem normal_enumeration {ε : Type} {values : List Json}
    (h : (s.enumeration location values : Report ε Node).result = .ok n) : n.Normal Shaped := by
  unfold enumeration at h
  simp only [Report.bind_eq_ok, Report.pure_eq_ok] at h
  obtain ⟨items, hitems, rfl⟩ := h
  exact .enum items s.docs (isLiteral_of_mem_literals hitems)

/-! ## Objects, lists, types -/

theorem normal_propertyNodes (hn : normalize.Lawful Shaped) {properties : Dict Node}
    (h : (s.propertyNodes normalize location).result = .ok properties) :
    ∀ e ∈ properties, e.2.Normal Shaped := by
  intro e he
  obtain ⟨e', _, _, hnode⟩ := exists_left_of_forall₂ (propertyNodes_eq_ok.1 h) he
  exact hn.normal _ _ _ hnode

theorem normal_additionalNode (hn : normalize.Lawful Shaped) {properties : Dict Node}
    {additional : Option Node}
    (h : (s.additionalNode normalize location properties).result = .ok additional) :
    ∀ m ∈ additional, m.Normal Shaped := by
  intro m hm
  rcases additionalNode_eq_ok h m hm with rfl | rfl | ⟨place, _, hplace⟩
  · exact normal_ofType rfl
  · exact normal_ofType rfl
  · exact hn.normal _ _ _ hplace

/-- An object node is normal, whatever constant and validation keywords are put on it. -/
theorem normal_objectNode (hn : normalize.Lawful Shaped) {properties : Dict Node}
    (hproperties : ∀ e ∈ properties, e.2.Normal Shaped)
    (h : (s.objectNode normalize location properties).result = .ok n) (const : Option Json)
    (constraints : Constraints) : Node.Normal Shaped { n with const, constraints } := by
  obtain ⟨additional, hadditional, rfl⟩ := objectNode_eq_ok.1 h
  refine .object properties _ additional const {} constraints ?_ hproperties
    (normal_additionalNode hn hadditional)
  intro name hname
  exact (List.mem_filter.1 (List.mem_eraseDups.1 hname)).2

theorem normal_shape (hn : normalize.Lawful Shaped) {properties : Dict Node}
    (hproperties : ∀ e ∈ properties, e.2.Normal Shaped)
    (h : (s.objectNode normalize location properties).result = .ok n) : n.Normal Shaped := by
  have hnormal := normal_objectNode hn hproperties h none {}
  obtain ⟨additional, _, rfl⟩ := objectNode_eq_ok.1 h
  exact hnormal

theorem tupleLength?_eq_some {k : Nat} (h : s.tupleLength? = some k) :
    s.minItems = some k ∧ s.maxItems = some k ∧ 1 ≤ k ∧ k ≤ maxTupleLength := by
  unfold tupleLength? at h
  split at h
  · rename_i least most hmin hmax
    split at h
    · rename_i hlength
      cases h
      rw [hmin, hlength.1]
      exact ⟨rfl, hmax, hlength.2⟩
    · cases h
  · cases h

/-- The node of a list is normal with the validation keywords of the schema, which fix the length of
a tuple. -/
theorem normal_listOf {item : Option Node} (hitem : ∀ m ∈ item, m.Normal Shaped) :
    Node.Normal Shaped { s.listOf item with constraints := s.constraints, const := s.const } := by
  unfold listOf
  split
  · rename_i k hk
    obtain ⟨hmin, hmax, hlength⟩ := tupleLength?_eq_some hk
    refine .tuple k _ s.const {} s.constraints hlength hmin hmax ?_
    cases item with
    | none => exact normal_ofType rfl
    | some m => exact hitem m rfl
  · exact .array item s.const {} s.constraints hitem

theorem normal_typeNode (hn : normalize.Lawful Shaped) {type : SchemaType}
    (h : (s.typeNode normalize location type).result = .ok n) : n.Normal Shaped := by
  obtain ⟨m, hm, rfl⟩ := typeNode_eq_ok.1 h
  -- All types but lists and objects become a plain type.
  have hplain : ∀ plain : NodeType, plain.isPlain = true → Node.ofType plain = m →
      Node.Normal Shaped { m with constraints := s.constraints, const := s.const } := by
    rintro plain hp rfl
    exact .plain plain s.const {} s.constraints hp
  cases type with
  | array =>
    rcases arrayNode_eq_ok.1 hm with ⟨_, rfl⟩ | ⟨place, item, _, hitem, rfl⟩
    · exact normal_listOf fun m hm => by cases hm
    · exact normal_listOf fun m hm => Option.some.inj hm ▸ hn.normal _ _ _ hitem
  | object =>
    obtain ⟨properties, hproperties, hobject⟩ := bareNode_object_eq_ok.1 hm
    exact normal_objectNode hn (normal_propertyNodes hn hproperties) hobject _ _
  | _ => exact hplain _ rfl (Report.pure_eq_ok.1 hm)

/-- The node of a type is neither a reference nor a composition. -/
theorem leaf_typeNode {type : SchemaType}
    (h : (s.typeNode normalize location type).result = .ok n) :
    n.reference = none ∧ n.operator = none := by
  obtain ⟨m, hm, rfl⟩ := typeNode_eq_ok.1 h
  cases type with
  | array =>
    have hlist : ∀ item, (s.listOf item).reference = none ∧ (s.listOf item).operator = none := by
      intro item
      unfold listOf
      split <;> exact ⟨rfl, rfl⟩
    rcases arrayNode_eq_ok.1 hm with ⟨_, rfl⟩ | ⟨_, _, _, _, rfl⟩ <;> exact hlist _
  | object =>
    obtain ⟨_, _, hobject⟩ := bareNode_object_eq_ok.1 hm
    obtain ⟨_, _, rfl⟩ := objectNode_eq_ok.1 hobject
    exact ⟨rfl, rfl⟩
  | _ =>
    rw [← Report.pure_eq_ok.1 hm]
    exact ⟨rfl, rfl⟩

/-- Null can be added to nodes of the grammar. -/
theorem normal_append_null {nodes : List Node} {nullable : Bool}
    (h : ∀ m ∈ nodes, m.Normal Shaped) :
    ∀ m ∈ nodes ++ if nullable then [Node.ofType .null] else [], m.Normal Shaped := by
  intro m hm
  rcases List.mem_append.1 hm with hm | hm
  · exact h m hm
  · split at hm
    · exact List.mem_singleton.1 hm ▸ normal_ofType rfl
    · cases hm

theorem normal_typed (hn : normalize.Lawful Shaped) (h : (s.typed normalize location).result = .ok n) :
    n.Normal Shaped := by
  obtain ⟨nodes, hnodes, rfl⟩ := typed_eq_ok.1 h
  -- A node of a type is no reference, so the default may go into its documentation.
  have hall : ∀ m ∈ nodes, m.Normal Shaped ∧ m.reference = none := by
    intro m hm
    obtain ⟨type, _, hnode⟩ := exists_left_of_forall₂ hnodes hm
    exact ⟨normal_typeNode hn hnode, (leaf_typeNode hnode).1⟩
  unfold typedOf
  split
  · exact .plain .null s.const s.docs {} rfl
  · obtain ⟨hnormal, href⟩ := hall _ List.mem_cons_self
    refine hnormal.withDocs fun hr => ?_
    rw [href] at hr
    cases hr
  · exact normal_dedupe_composition (normal_append_null fun m hm => (hall m hm).1)

theorem normal_untyped : s.untyped.Normal Shaped :=
  .plain .unknown none s.docs s.constraints rfl

/-! ## Intersections -/

theorem normal_allOfBranch (hn : normalize.Lawful Shaped) {component : Option String}
    {branch : RefOr Schema × Nat} {items : List Node}
    (h : (s.allOfBranch d normalize component location branch).result = .ok items) :
    ∀ m ∈ items, m.Normal Shaped := by
  obtain ⟨place, i⟩ := branch
  intro m hm
  cases place with
  | inline t =>
    obtain ⟨n, hnode, rfl⟩ := allOfBranch_inline_eq_ok.1 h
    rw [List.mem_singleton.1 hm]
    exact (hn.normal _ _ _ hnode).promote s.required
  | ref r =>
    obtain ⟨n, tag, hnode, htag, rfl⟩ := allOfBranch_ref_eq_ok h
    rcases List.mem_cons.1 hm with rfl | hm
    · exact hn.normal _ _ _ hnode
    · obtain ⟨property, value, required, rfl⟩ := htag m (Option.mem_toList.1 hm)
      exact normal_tagged property value required

theorem normal_ownShape (hn : normalize.Lawful Shaped) {shape : List Node}
    (h : (s.ownShape d normalize location).result = .ok shape) : ∀ m ∈ shape, m.Normal Shaped := by
  intro m hm
  rcases ownShape_eq_ok.1 h with ⟨_, rfl⟩ | ⟨_, declared, properties, o, hdeclared, hproperties, ho,
    rfl⟩
  · cases hm
  · split at hm
    · cases hm
    · rw [List.mem_singleton.1 hm]
      refine normal_shape hn ?_ ho
      -- What is taken over comes from the normalizer as well.
      refine takeOver_induction (P := fun properties => ∀ e ∈ properties, e.2.Normal Shaped)
        (normal_propertyNodes hn hdeclared) ?_ hproperties
      intro properties name found m hall _ hm e he
      rcases Dict.mem_insert he with he | rfl
      · exact hall e he
      · exact hn.normal _ _ _ hm

/-- What is true of the members that are found for each branch is true of all members. -/
theorem forall_mem_flatten {α : Type} {R : α → List Node → Prop} {P : Node → Prop} {branches : List α}
    {members : List (List Node)} (h : List.Forall₂ R branches members)
    (hR : ∀ branch ms, R branch ms → ∀ m ∈ ms, P m) : ∀ m ∈ members.flatten, P m := by
  intro m hm
  obtain ⟨ms, hms, hm⟩ := List.mem_flatten.1 hm
  obtain ⟨branch, _, hbranch⟩ := exists_left_of_forall₂ h hms
  exact hR branch ms hbranch m hm

theorem normal_intersection (hn : normalize.Lawful Shaped) {component : Option String}
    {branches : List (RefOr Schema)}
    (h : (s.intersection d normalize component location branches).result = .ok n) : n.Normal Shaped := by
  obtain ⟨items, shape, hitems, hshape, rfl⟩ := intersection_eq_ok.1 h
  have hall : (s.intersectionOf (items.flatten ++ shape)).Normal Shaped := by
    refine normal_dedupe_composition fun m hm => ?_
    rcases List.mem_append.1 hm with hm | hm
    · exact forall_mem_flatten hitems (fun _ _ hbranch => normal_allOfBranch hn hbranch) m hm
    · exact normal_ownShape hn hshape m hm
  split
  · exact hall.orNull
  · exact hall

/-! ## Unions -/

/-- A tag says something other than a reference, so that their intersection is simplified. -/
theorem simplified_tagged_reference (property value reference : String) (required : Bool) :
    Simplified .and [tagged property value required, ofReference reference] := by
  refine ⟨Nat.le_refl 2, ?_, ?_⟩
  · intro m hm
    rcases List.mem_cons.1 hm with rfl | hm
    · rfl
    · rw [List.mem_singleton.1 hm]
      rfl
  · rw [List.pairwise_pair, tagged, structurallyEq]
    -- The reference is there on one side only.
    rfl

theorem normal_alternative {place : RefOr Schema}
    (hreference : ∀ r, place = .ref r → ∃ reference, n = .ofReference reference) (h : n.Normal Shaped) :
    (s.alternative place n).Normal Shaped := by
  unfold alternative
  split
  · rename_i discriminator r _
    obtain ⟨reference, rfl⟩ := hreference r rfl
    refine .composition .and _ {} ?_ (simplified_tagged_reference _ _ _ _)
    intro m hm
    rcases List.mem_cons.1 hm with rfl | hm
    · exact normal_tagged _ _ _
    · exact List.mem_singleton.1 hm ▸ h
  · exact h

theorem normal_members (kind : UnionKind) (h : n.Normal Shaped) : ∀ m ∈ kind.members n, m.Normal Shaped := by
  intro m hm
  unfold UnionKind.members at hm
  split at hm
  · rename_i hlifts
    have ho : n.operator = some .or := by
      rw [Bool.and_eq_true] at hlifts
      exact eq_of_beq hlifts.2
    exact (h.composed ho).normal_of_mem hm
  · exact List.mem_singleton.1 hm ▸ h

theorem normal_unionOf {members : List Node} (h : ∀ m ∈ members, m.Normal Shaped) :
    (s.unionOf members).Normal Shaped :=
  normal_dedupe_composition (normal_append_null h)

theorem isBareUnknown_unionOf (members : List Node) : (s.unionOf members).isBareUnknown = false :=
  isBareUnknown_dedupeAs (isBareUnknown_of_operator rfl)

theorem normal_unionBranch (hn : normalize.Lawful Shaped) {kind : UnionKind}
    {branch : RefOr Schema × Nat} {members : List Node}
    (h : (s.unionBranch normalize kind location branch).result = .ok members) :
    ∀ m ∈ members, m.Normal Shaped := by
  obtain ⟨m, hm, rfl⟩ := unionBranch_eq_ok.1 h
  refine normal_members kind (normal_alternative ?_ (hn.normal _ _ _ hm))
  intro r hr
  rw [hr] at hm
  exact hn.reference r _ m hm

theorem normal_union (hn : normalize.Lawful Shaped) {kind : UnionKind}
    {branches : List (RefOr Schema)}
    (hshaped : s.properties.getD [] ≠ [] → ∀ union shape, n = composition .and [union, shape] →
      Shaped union shape)
    (h : (s.union normalize kind location branches).result = .ok n) : n.Normal Shaped := by
  by_cases hp : s.properties.getD [] = []
  · obtain ⟨members, hmembers, rfl⟩ := union_eq_ok_of_nil hp h
    exact normal_unionOf
      (forall_mem_flatten hmembers fun _ _ hbranch => normal_unionBranch hn hbranch)
  · -- The union is simplified, its intersection with the object is not.
    obtain ⟨members, shape, hmembers, hshape, hne, rfl⟩ := union_eq_ok_of_ne_nil hp h
    obtain ⟨properties, hproperties, hobject⟩ := bareNode_object_eq_ok.1 hshape
    refine .shaped _ shape {} (hshaped hp _ _ rfl) (normal_unionOf ?_) ?_
      (isBareUnknown_unionOf _) ?_ hne
    · exact forall_mem_flatten hmembers fun _ _ hbranch => normal_unionBranch hn hbranch
    · exact normal_shape hn (normal_propertyNodes hn hproperties) hobject
    · obtain ⟨additional, _, rfl⟩ := objectNode_eq_ok.1 hobject
      rfl

/-! ## All forms -/

theorem normal_normalizeLayer (hn : normalize.Lawful Shaped) {component : Option String}
    (hshaped : s.unionBranches?.isSome = true → s.properties.getD [] ≠ [] →
      ∀ union shape, n = composition .and [union, shape] → Shaped union shape)
    (h : (s.normalizeLayer d normalize component location).result = .ok n) :
    n.Normal Shaped := by
  unfold unionBranches? at hshaped
  unfold normalizeLayer at h
  split at h
  · exact normal_enumeration h
  · exact normal_intersection hn h
  · rename_i hform
    rw [hform] at hshaped
    exact normal_union hn (hshaped rfl) h
  · rename_i hform
    rw [hform] at hshaped
    exact normal_union hn (hshaped rfl) h
  · exact normal_typed hn h
  · exact Report.pure_eq_ok.1 h ▸ normal_untyped

end Schema

namespace Document

variable {d : Document} {component : Option String} {place : RefOr Schema} {location : String}
  {n : Node}

/-- A schema of the document that has the form of a union and declares properties becomes the
intersection of the union with the object that it declares. -/
def JoinsShape (d : Document) (union shape : Node) : Prop :=
  ∃ component s location, Schema.unionBranches? s ≠ none ∧ s.properties.getD [] ≠ [] ∧
    d.Normalizes component (.inline s) location (.composition .and [union, shape])

/-- The node of a schema is normal. -/
theorem Normalizes.normal (h : d.Normalizes component place location n) :
    n.Normal d.JoinsShape := by
  refine h.induction (P := Node.Normal d.JoinsShape) ?_ ?_
  · exact fun r _ => Node.normal_ofReference r.normalized
  · intro steps component s location n ih h
    refine Schema.normal_normalizeLayer ⟨ih, ?_⟩ ?_ h
    · intro r location m hm
      exact ⟨r.normalized, (normalizes_ref_iff.1 ⟨steps, hm⟩).2⟩
    · rintro hu hp union shape rfl
      exact ⟨component, s, location, Option.isSome_iff_ne_none.1 hu, hp,
        normalizes_inline_iff.2 ⟨steps, h⟩⟩

theorem preserves_normal (d : Document) : d.Preserves (Node.Normal d.JoinsShape) where
  schema _ _ _ _ h := h.normal
  nothing type htype := by
    rcases htype with rfl | rfl <;> exact Node.normal_ofType rfl
  described _ _ h := h.withDocs_of_default_eq rfl
  object properties required hproperties hrequired :=
    .object properties required none none {} {} hrequired hproperties fun m hm => by cases hm
  union _ h := Node.normal_dedupe_composition h

/-- All the nodes at any depth of a normalized document are normal. -/
theorem normal_of_mem_nested {config : Config} {r : Normalized}
    (h : d.normalize config = .ok r) : ∀ n ∈ r.model.nested, n.Normal d.JoinsShape := by
  intro n hn
  obtain ⟨m, hm, hn⟩ := List.mem_flatMap.1 hn
  exact Node.forall_mem_nested (fun _ hm => hm.children) (d.preserves_normal.forall_mem_nodes h m hm)
    n hn

end Document

end ApiShape
