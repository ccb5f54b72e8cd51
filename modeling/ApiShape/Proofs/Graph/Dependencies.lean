import ApiShape.Model.Graph
import ApiShape.Proofs.Dict
import ApiShape.Proofs.Node.Nested
import Mathlib.Logic.Relation

/-!
# Dependencies, direct and through others

A schema depends on those that its nodes refer to at some depth. What a schema reaches is the
transitive closure of that, so the recursive schemas are those that depend on themselves in one step
or more.
-/

namespace ApiShape

namespace Node

/-! ## The components that a node refers to -/

theorem itemComponentNames_eq (items : List Node) :
    itemComponentNames items = items.flatMap componentNames := by
  induction items with
  | nil => rfl
  | cons n rest ih => rw [itemComponentNames, List.flatMap_cons, ih]

theorem propertyComponentNames_eq (properties : List (String × Node)) :
    propertyComponentNames properties = (properties.map (·.2)).flatMap componentNames := by
  induction properties with
  | nil => rfl
  | cons e rest ih => rw [propertyComponentNames, List.map_cons, List.flatMap_cons, ih]

theorem additionalComponentNames_eq (additional : Option Node) :
    additionalComponentNames additional = additional.toList.flatMap componentNames := by
  cases additional with
  | none => rfl
  | some n => rw [additionalComponentNames, Option.toList_some, List.flatMap_singleton]

theorem componentNames_eq (n : Node) :
    n.componentNames = n.componentName?.toList ++ n.children.flatMap componentNames := by
  cases n
  rw [componentNames, children, itemComponentNames_eq, propertyComponentNames_eq,
    additionalComponentNames_eq, List.flatMap_append, List.flatMap_append, List.append_assoc,
    List.append_assoc, List.append_assoc]

/-- A node refers to what the nodes at any depth in it refer to. -/
theorem mem_componentNames_iff {n : Node} {name : String} :
    name ∈ n.componentNames ↔ ∃ m ∈ n.nested, m.componentName? = some name := by
  rw [componentNames_eq, List.mem_append, Option.mem_toList, List.mem_flatMap]
  constructor
  · rintro (h | ⟨c, hc, h⟩)
    · exact ⟨n, mem_nested_iff.2 (.inl rfl), h⟩
    · have := sizeOf_lt_of_mem_children hc
      obtain ⟨m, hm, h⟩ := mem_componentNames_iff.1 h
      exact ⟨m, mem_nested_iff.2 (.inr ⟨c, hc, hm⟩), h⟩
  · rintro ⟨m, hm, h⟩
    rcases mem_nested_iff.1 hm with rfl | ⟨c, hc, hm⟩
    · exact .inl h
    · have := sizeOf_lt_of_mem_children hc
      exact .inr ⟨c, hc, mem_componentNames_iff.2 ⟨m, hm, h⟩⟩
termination_by sizeOf n

end Node

namespace Graph

variable {g : Graph} {a b : String}

/-! ## Direct dependencies -/

/-- A schema refers to another. -/
def DependsOn (g : Graph) (a b : String) : Prop :=
  b ∈ g.dependencies a

theorem dependsOn_iff :
    g.DependsOn a b ↔ ∃ n, g.schemas.get? a = some n ∧ g.schemas.has b = true ∧
      ∃ m ∈ n.nested, m.componentName? = some b := by
  unfold DependsOn dependencies
  cases g.schemas.get? a with
  | none => simp only [List.not_mem_nil, reduceCtorEq, false_and, exists_false]
  | some n =>
    simp only [List.mem_eraseDups, List.mem_filter, Node.mem_componentNames_iff, Option.some.injEq,
      exists_eq_left']
    exact and_comm

theorem DependsOn.has_left (h : g.DependsOn a b) : g.schemas.has a = true := by
  obtain ⟨n, hn, -⟩ := dependsOn_iff.1 h
  unfold Dict.has
  rw [hn]
  rfl

theorem mem_edges_iff : (a, b) ∈ g.edges ↔ g.DependsOn a b := by
  unfold edges
  rw [List.mem_flatMap]
  constructor
  · rintro ⟨name, _, h⟩
    obtain ⟨dependency, hd, he⟩ := List.mem_map.1 h
    cases he
    exact hd
  · intro h
    exact ⟨a, Dict.mem_keys_of_has h.has_left, List.mem_map.2 ⟨b, h, rfl⟩⟩

/-! ## Dependencies through others -/

theorem mem_through_iff {edges : List (String × String)} {via : String} :
    (a, b) ∈ through edges via ↔ (a, b) ∈ edges ∨ (a, via) ∈ edges ∧ (via, b) ∈ edges := by
  unfold through
  simp only [List.mem_eraseDups, List.mem_append, List.mem_flatMap, List.mem_map, List.mem_filter,
    decide_eq_true_eq]
  constructor
  · rintro (h | ⟨_, ⟨⟨x, v⟩, ⟨hx, rfl⟩, rfl⟩, _, ⟨⟨w, y⟩, ⟨hy, rfl⟩, rfl⟩, he⟩)
    · exact .inl h
    · cases he
      exact .inr ⟨hx, hy⟩
  · rintro (h | ⟨ha, hb⟩)
    · exact .inl h
    · exact .inr ⟨a, ⟨(a, via), ⟨ha, rfl⟩, rfl⟩, b, ⟨(via, b), ⟨hb, rfl⟩, rfl⟩, rfl⟩

/-- Two edges that meet in one of the names are joined by an edge. -/
def ClosedAt (edges : List (String × String)) (names : List String) : Prop :=
  ∀ via ∈ names, ∀ a b, (a, via) ∈ edges → (via, b) ∈ edges → (a, b) ∈ edges

/-- Adding the edges through one more name keeps what was joined before, and joins what meets in
that name. -/
theorem ClosedAt.through {edges : List (String × String)} {names : List String}
    (h : ClosedAt edges names) (name : String) :
    ClosedAt (through edges name) (name :: names) := by
  intro via hvia a b ha hb
  rw [mem_through_iff] at ha hb ⊢
  rcases List.mem_cons.1 hvia with rfl | hvia
  · -- Both edges come to the new name, or leave it, without a detour.
    have ha : (a, via) ∈ edges := ha.elim id And.left
    have hb : (via, b) ∈ edges := hb.elim id And.right
    exact .inr ⟨ha, hb⟩
  · rcases ha with ha | ⟨ha, hname⟩
    · rcases hb with hb | ⟨hb, hb'⟩
      · exact .inl (h via hvia a b ha hb)
      · exact .inr ⟨h via hvia a name ha hb, hb'⟩
    · rcases hb with hb | ⟨hb, hb'⟩
      · exact .inr ⟨ha, h via hvia name b hname hb⟩
      · exact .inr ⟨ha, hb'⟩

theorem closedAt_foldl_through {edges : List (String × String)} {names : List String}
    (h : ClosedAt edges names) (more : List String) :
    ClosedAt (more.foldl Graph.through edges) (more.reverse ++ names) := by
  induction more generalizing edges names with
  | nil => exact h
  | cons name rest ih =>
    rw [List.foldl_cons, List.reverse_cons, List.append_assoc]
    exact ih (h.through name)

theorem mem_foldl_through {edges : List (String × String)} {more : List String}
    {e : String × String} (h : e ∈ edges) : e ∈ more.foldl through edges := by
  induction more generalizing edges with
  | nil => exact h
  | cons name rest ih => exact ih (mem_through_iff.2 (.inl h))

/-- Only what is joined by edges, one after the other, is ever joined. -/
theorem transGen_of_mem_foldl_through {R : String → String → Prop}
    {edges : List (String × String)} {more : List String}
    (h : ∀ a b, (a, b) ∈ edges → Relation.TransGen R a b)
    (he : (a, b) ∈ more.foldl through edges) : Relation.TransGen R a b := by
  induction more generalizing edges with
  | nil => exact h a b he
  | cons name rest ih =>
    refine ih (fun a b hab => ?_) he
    rcases mem_through_iff.1 hab with hab | ⟨ha, hb⟩
    · exact h a b hab
    · exact (h a name ha).trans (h name b hb)

theorem closedAt_reach (g : Graph) : ClosedAt g.reach g.schemas.keys := by
  have hstart : ClosedAt g.edges [] := by
    intro via hvia
    cases hvia
  have h := closedAt_foldl_through hstart g.schemas.keys
  intro via hvia
  exact h via (List.mem_append_left _ (List.mem_reverse.2 hvia))

/-- A schema reaches another if it depends on it, directly or through others. -/
theorem mem_reach_iff : (a, b) ∈ g.reach ↔ Relation.TransGen g.DependsOn a b := by
  constructor
  · exact transGen_of_mem_foldl_through fun a b h => .single (mem_edges_iff.1 h)
  · intro h
    induction h with
    | single h => exact mem_foldl_through (mem_edges_iff.2 h)
    | tail _ h ih =>
      -- The schema in the middle is one of those that edges are led through.
      exact g.closedAt_reach _ (Dict.mem_keys_of_has h.has_left) _ _ ih
        (mem_foldl_through (mem_edges_iff.2 h))

theorem isRecursive_iff {name : String} :
    g.isRecursive name = true ↔ Relation.TransGen g.DependsOn name name := by
  unfold isRecursive
  rw [List.contains_iff_mem, mem_reach_iff]

end Graph

end ApiShape
