import ApiShape.Node.Basic

/-!
# Nodes inside nodes

All the nodes at any depth of a node, the node itself first. What a node passes on to the nodes right
inside it holds at every depth.
-/

namespace ApiShape.Node

mutual

/-- The node and all the nodes inside it. -/
def nested : Node → List Node
  | ⟨reference, type, items, operator, properties, required, additional, const, docs,
      constraints⟩ =>
    ⟨reference, type, items, operator, properties, required, additional, const, docs,
        constraints⟩ ::
      (nestedItems items ++ nestedProperties properties ++ nestedOption additional)

/-- The nodes of items and all the nodes inside them. -/
def nestedItems : List Node → List Node
  | [] => []
  | n :: rest => nested n ++ nestedItems rest

/-- The nodes of properties and all the nodes inside them. -/
def nestedProperties : List (String × Node) → List Node
  | [] => []
  | (_, n) :: rest => nested n ++ nestedProperties rest

/-- The node of additional properties and all the nodes inside it. -/
def nestedOption : Option Node → List Node
  | none => []
  | some n => nested n

end

theorem nestedItems_eq (items : List Node) : nestedItems items = items.flatMap nested := by
  induction items with
  | nil => rfl
  | cons n rest ih => rw [nestedItems, List.flatMap_cons, ih]

theorem nestedProperties_eq (properties : List (String × Node)) :
    nestedProperties properties = (properties.map (·.2)).flatMap nested := by
  induction properties with
  | nil => rfl
  | cons e rest ih => rw [nestedProperties, List.map_cons, List.flatMap_cons, ih]

theorem nestedOption_eq (additional : Option Node) :
    nestedOption additional = additional.toList.flatMap nested := by
  cases additional with
  | none => rfl
  | some n => rw [nestedOption, Option.toList_some, List.flatMap_singleton]

theorem nested_eq (n : Node) : n.nested = n :: n.children.flatMap nested := by
  cases n
  rw [nested, children, nestedItems_eq, nestedProperties_eq, nestedOption_eq,
    List.flatMap_append, List.flatMap_append]

theorem mem_nested_iff {n m : Node} : m ∈ n.nested ↔ m = n ∨ ∃ c ∈ n.children, m ∈ c.nested := by
  rw [nested_eq, List.mem_cons, List.mem_flatMap]

theorem sizeOf_lt_of_mem_children {n c : Node} (h : c ∈ n.children) : sizeOf c < sizeOf n := by
  cases n with
  | mk reference type items operator properties required additional const docs constraints =>
    simp only [children, List.mem_append, List.mem_map, Option.mem_toList] at h
    rw [mk.sizeOf_spec]
    -- An item, the node of a property, or the node of additional properties.
    rcases h with (h | ⟨e, he, rfl⟩) | h
    · have := List.sizeOf_lt_of_mem h
      omega
    · have := List.sizeOf_lt_of_mem he
      have : sizeOf e.2 < sizeOf e := by
        cases e
        simp only [Prod.mk.sizeOf_spec]
        omega
      omega
    · cases h
      simp only [Option.some.sizeOf_spec]
      omega

/-- What is inside a nested node is nested. -/
theorem mem_nested_of_mem_children {n m c : Node} (hm : m ∈ n.nested) (hc : c ∈ m.children) :
    c ∈ n.nested := by
  rcases mem_nested_iff.1 hm with rfl | ⟨k, hk, hm⟩
  · exact mem_nested_iff.2 (.inr ⟨c, hc, mem_nested_iff.2 (.inl rfl)⟩)
  · have := sizeOf_lt_of_mem_children hk
    exact mem_nested_iff.2 (.inr ⟨k, hk, mem_nested_of_mem_children hm hc⟩)
termination_by sizeOf n

/-- What a node passes on to its children holds at every depth. -/
theorem forall_mem_nested {P : Node → Prop} (h : ∀ n, P n → ∀ c ∈ n.children, P c) {n : Node}
    (hn : P n) : ∀ m ∈ n.nested, P m := by
  intro m hm
  rcases mem_nested_iff.1 hm with rfl | ⟨c, hc, hm⟩
  · exact hn
  · have := sizeOf_lt_of_mem_children hc
    exact forall_mem_nested h (h n hn c hc) m hm
termination_by sizeOf n

/-! ## Conditions at every depth -/

variable {Q : Node → Prop} {n m : Node}

/-- All the nodes at any depth of the node satisfy the condition. -/
def Everywhere (Q : Node → Prop) (n : Node) : Prop :=
  ∀ m ∈ n.nested, Q m

theorem everywhere_iff : n.Everywhere Q ↔ Q n ∧ ∀ c ∈ n.children, c.Everywhere Q := by
  constructor
  · intro h
    exact ⟨h n (mem_nested_iff.2 (.inl rfl)), fun c hc m hm => h m (mem_nested_iff.2 (.inr ⟨c, hc, hm⟩))⟩
  · rintro ⟨hn, hchildren⟩ m hm
    rcases mem_nested_iff.1 hm with rfl | ⟨c, hc, hm⟩
    · exact hn
    · exact hchildren c hc m hm

theorem Everywhere.self (h : n.Everywhere Q) : Q n :=
  (everywhere_iff.1 h).1

theorem Everywhere.child (h : n.Everywhere Q) (hm : m ∈ n.children) : m.Everywhere Q :=
  (everywhere_iff.1 h).2 m hm

theorem Everywhere.item (h : n.Everywhere Q) (hm : m ∈ n.items) : m.Everywhere Q :=
  h.child (List.mem_append_left _ (List.mem_append_left _ hm))

end ApiShape.Node
