import ApiShape.Proofs.Node.Interpretation
import ApiShape.Proofs.Normalize.Enumeration
import ApiShape.Proofs.Normalize.Normal
import ApiShape.Proofs.Normalize.Steps

/-!
# Validation keywords

The node of a schema with types, or of one whose type is not known, carries the validation keywords of
the schema: a union of types and null has them on an item. The node of an enum, of an intersection, of a
union, or of null alone is the same whatever the keywords are.
-/

namespace ApiShape

/-- The node, one of its items, or an item of one of them has the validation keywords. -/
def Node.Carries (n : Node) (constraints : Constraints) : Prop :=
  n.constraints = constraints ∨
    ∃ m ∈ n.items, m.constraints = constraints ∨ ∃ k ∈ m.items, k.constraints = constraints

namespace Schema

/-- The schema has a type other than null, or its type is not known. -/
def Keeps (s : Schema) : Prop :=
  match s.form with
  | .enum _ | .allOf _ | .anyOf _ | .oneOf _ => False
  | .typed => s.effectiveTypes ≠ []
  | .untyped => True

/-- The schema with the validation keywords of another. -/
def revalidated (s t : Schema) : Schema :=
  { s with
    format := t.format
    pattern := t.pattern
    minimum := t.minimum
    maximum := t.maximum
    exclusiveMinimum := t.exclusiveMinimum
    exclusiveMaximum := t.exclusiveMaximum
    minLength := t.minLength
    maxLength := t.maxLength
    minItems := t.minItems
    maxItems := t.maxItems
    readOnly := t.readOnly
    writeOnly := t.writeOnly }

variable {d : Document} {normalize : Normalizer} {component : Option String} {s t : Schema}
  {location : String} {n : Node}

theorem constraints_revalidated (s t : Schema) : (s.revalidated t).constraints = t.constraints :=
  rfl

/-! ## What carries keywords -/

theorem isShapeless_of_constraints_ne (h : n.constraints ≠ {}) : n.isShapeless = false := by
  have hbeq : (n.constraints == {}) = false := by
    rw [← Bool.not_eq_true, Node.constraints_beq_eq]
    simp only [Option.beq_none, Bool.and_eq_true, Option.isNone_iff_eq_none]
    rintro ⟨hformat, hpattern, hmin, hmax, hexclusiveMin, hexclusiveMax, hminLength, hmaxLength,
      hminItems, hmaxItems, hscope⟩
    apply h
    cases hc : n.constraints
    simp_all
  rw [Node.isShapeless, hbeq, Bool.and_false]

/-- The keywords that all nodes of a union have, apart from null, are still there when the union is
simplified. -/
theorem carries_dedupe_union {nodes rest : List Node} {constraints : Constraints} (docs : Docs)
    (hne : nodes ≠ []) (hconstraints : constraints ≠ {})
    (hnodes : ∀ m ∈ nodes, m.operator = none ∧ m.constraints = constraints)
    (hrest : ∀ m ∈ rest, m.isShapeless = true) :
    (Node.dedupe { Node.composition .or (nodes ++ rest) with docs }).Carries constraints := by
  have hshape : ∀ m ∈ nodes, m.isShapeless = false := fun m hm =>
    isShapeless_of_constraints_ne ((hnodes m hm).2 ▸ hconstraints)
  -- What survives of the first node is one of the nodes, as null has no shape.
  have hsurvives : ∃ m ∈ Node.survivors .or (nodes ++ rest), m.isShapeless = false := by
    obtain ⟨first, more, rfl⟩ := List.exists_cons_of_ne_nil hne
    have hfirst := hshape first List.mem_cons_self
    rcases Node.exists_mem_survivors (List.mem_append_left rest List.mem_cons_self)
        (Node.isDroppable_of_isShapeless hfirst) with h | ⟨m, hm, heq⟩
    · exact ⟨first, h, hfirst⟩
    · exact ⟨m, hm, (Node.fields_of_structurallyEq heq).2.2.1.trans hfirst⟩
  have hmem : ∀ m ∈ Node.survivors .or (nodes ++ rest), m.isShapeless = false → m ∈ nodes := by
    intro m hm hshapeless
    rcases List.mem_append.1 (Node.mem_of_mem_survivors hm) with h | h
    · exact h
    · rw [hrest m h] at hshapeless
      cases hshapeless
  obtain ⟨m, hm, hshapeless⟩ := hsurvives
  obtain ⟨hleaf, hcarries⟩ := hnodes m (hmem m hm hshapeless)
  unfold Node.dedupe
  cases hsurvivors : Node.survivors .or (nodes ++ rest) with
  | nil =>
    rw [hsurvivors] at hm
    cases hm
  | cons k more =>
    cases more with
    | nil =>
      -- A single survivor takes the place of the union.
      rw [hsurvivors, List.mem_singleton] at hm
      subst hm
      have hknown : m.isBareUnknown = false := by rw [Node.isBareUnknown, hshapeless, Bool.and_false]
      rw [Node.dedupeAs_of_single_leaf rfl hsurvivors hknown hleaf]
      exact .inl hcarries
    | cons l more =>
      have hlength : 2 ≤ (Node.survivors .or (nodes ++ rest)).length := by
        rw [hsurvivors, List.length_cons, List.length_cons]
        omega
      rw [Node.dedupeAs_of_two_le rfl hlength]
      exact .inr ⟨m, hm, .inl hcarries⟩

theorem carries_typedOf {nodes : List Node} {constraints : Constraints} (hne : nodes ≠ [])
    (hnodes : ∀ m ∈ nodes, m.operator = none ∧ m.constraints = constraints)
    (hconstraints : constraints ≠ {}) : (s.typedOf nodes).Carries constraints := by
  unfold typedOf
  split
  · exact absurd rfl hne
  · exact .inl (hnodes _ List.mem_cons_self).2
  · refine carries_dedupe_union s.docs hne hconstraints hnodes fun m hm => ?_
    split at hm
    · rw [List.mem_singleton.1 hm]
      rfl
    · cases hm

theorem carries_typed (hne : s.effectiveTypes ≠ []) (hconstraints : s.constraints ≠ {})
    (h : (s.typed normalize location).result = .ok n) : n.Carries s.constraints := by
  obtain ⟨nodes, hnodes, rfl⟩ := typed_eq_ok.1 h
  refine carries_typedOf ?_ ?_ hconstraints
  · rintro rfl
    exact hne (List.forall₂_nil_right_iff.1 hnodes)
  · intro m hm
    obtain ⟨type, -, hnode⟩ := exists_left_of_forall₂ hnodes hm
    refine ⟨(leaf_typeNode hnode).2, ?_⟩
    obtain ⟨bare, -, rfl⟩ := typeNode_eq_ok.1 hnode
    rfl

theorem carries_normalizeLayer (hs : s.Keeps) (hconstraints : s.constraints ≠ {})
    (h : (s.normalizeLayer d normalize component location).result = .ok n) :
    n.Carries s.constraints := by
  unfold Keeps at hs
  unfold normalizeLayer at h
  cases hform : s.form with
  | typed =>
    rw [hform] at hs h
    exact carries_typed hs hconstraints h
  | untyped =>
    rw [hform] at h
    rw [← Report.pure_eq_ok.1 h]
    exact .inl rfl
  | _ =>
    rw [hform] at hs
    exact hs.elim

/-! ## What does not -/

theorem literals_revalidated (s t : Schema) (location : String) (i : Nat) (values : List Json) :
    ((s.revalidated t).literals location i values : Report NormalizeError (List Node)) =
      s.literals location i values := by
  rw [literals_eq, literals_eq]
  rfl

theorem intersection_revalidated (branches : List (RefOr Schema)) :
    (s.revalidated t).intersection d normalize component location branches =
      s.intersection d normalize component location branches := by
  have hancestors : d.ancestors (s.revalidated t) location = d.ancestors s location := by
    cases s
    rfl
  have htakeOver : (s.revalidated t).takeOver d normalize location =
      s.takeOver d normalize location :=
    funext fun properties => funext fun names => takeOver_congr hancestors properties names
  have hshape : (s.revalidated t).ownShape d normalize location =
      s.ownShape d normalize location := by
    unfold ownShape
    rw [htakeOver]
    rfl
  unfold intersection
  rw [hshape]
  rfl

/-- The validation keywords play no part in a form that does not keep them. -/
theorem normalizeLayer_revalidated (hs : ¬ s.Keeps) :
    (s.revalidated t).normalizeLayer d normalize component location =
      s.normalizeLayer d normalize component location := by
  have hform : (s.revalidated t).form = s.form := rfl
  unfold Keeps at hs
  unfold normalizeLayer
  rw [hform]
  cases hform : s.form with
  | enum values =>
    dsimp only
    unfold enumeration
    rw [literals_revalidated]
    rfl
  | allOf branches => exact intersection_revalidated branches
  | anyOf branches => rfl
  | oneOf branches => rfl
  | typed =>
    rw [hform, not_not] at hs
    have hnil : (s.revalidated t).effectiveTypes = [] := hs
    dsimp only
    rw [typed_eq, typed_eq, hs, hnil]
    rfl
  | untyped =>
    rw [hform] at hs
    exact absurd trivial hs

end Schema

namespace Document

/-- A schema that keeps validation keywords becomes a node that carries them. Any other becomes the same
node with all keywords. -/
theorem carries_of_normalizes {d : Document} {component : Option String} {s : Schema}
    {location : String} {n : Node} (h : d.Normalizes component (.inline s) location n) :
    (s.Keeps → s.constraints ≠ {} → n.Carries s.constraints) ∧
      (¬ s.Keeps → ∀ t, d.Normalizes component (.inline (s.revalidated t)) location n) := by
  obtain ⟨steps, h⟩ := normalizes_inline_iff.1 h
  refine ⟨fun hs hconstraints => Schema.carries_normalizeLayer hs hconstraints h, fun hs t => ?_⟩
  rw [normalizes_inline_iff]
  exact ⟨steps, (Schema.normalizeLayer_revalidated hs).symm ▸ h⟩

/-- A code of at most ten characters, which may be null. -/
def codeSchema : Schema where
  types := [.string]
  nullable := true
  maxLength := some 10

/-- A mode that is only sent by the server. -/
def modeSchema : Schema where
  types := [.string]
  enum := some [.string "r", .string "w"]
  readOnly := true

theorem exists_normalizes_code : ∃ n, Normalizes {} none (.inline codeSchema) "#" n :=
  ⟨_, 1, rfl⟩

theorem exists_normalizes_mode : ∃ n, Normalizes {} none (.inline modeSchema) "#" n ∧
    n.constraints = {} ∧ ∀ m ∈ n.items, m.constraints = {} ∧ m.items = [] := by
  refine ⟨_, ⟨1, rfl⟩, rfl, fun m hm => ?_⟩
  rcases List.mem_cons.1 hm with rfl | hm
  · exact ⟨rfl, rfl⟩
  · rw [List.mem_singleton.1 hm]
    exact ⟨rfl, rfl⟩

theorem carries_of_normalizes_code :
    codeSchema.constraints.maxLength = some 10 ∧
      (∃ n, Normalizes {} none (.inline codeSchema) "#" n ∧ n.Carries codeSchema.constraints) ∧
      ∃ n, Normalizes {} none (.inline modeSchema) "#" n ∧
        Normalizes {} none (.inline (modeSchema.revalidated codeSchema)) "#" n := by
  obtain ⟨code, hcode⟩ := exists_normalizes_code
  obtain ⟨mode, hmode, -⟩ := exists_normalizes_mode
  refine ⟨rfl, ⟨code, hcode, ?_⟩, mode, hmode, ?_⟩
  · refine (carries_of_normalizes hcode).1 ?_ fun h => ?_
    · exact List.cons_ne_nil SchemaType.string []
    · cases congrArg Constraints.maxLength h
  · exact (carries_of_normalizes hmode).2 id codeSchema

/-- The node of an enum does not say that only the server sends it. -/
theorem not_carries_mode :
    ∃ n, Normalizes {} none (.inline modeSchema) "#" n ∧ modeSchema.constraints ≠ {} ∧
      ¬ n.Carries modeSchema.constraints := by
  obtain ⟨n, hn, hself, hitems⟩ := exists_normalizes_mode
  have hne : ({} : Constraints) ≠ modeSchema.constraints := by
    intro h
    cases congrArg Constraints.accessScope h
  refine ⟨n, hn, hne.symm, ?_⟩
  rintro (h | ⟨m, hm, h | ⟨k, hk, -⟩⟩)
  · exact hne (hself.symm.trans h)
  · exact hne ((hitems m hm).1.symm.trans h)
  · rw [(hitems m hm).2] at hk
    cases hk

end Document

end ApiShape
