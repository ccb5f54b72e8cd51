import ApiShape.Node.Equality

/-!
# Simplified compositions

A composition is simplified by dropping the items that say nothing and all but the first of
structurally equal items. If a single item survives, it takes the place of the composition, with
the documentation that it lacks, and is simplified in turn.
-/

namespace ApiShape.Node

/-- The item adds nothing to a composition. In an intersection an unknown type adds nothing. -/
def isDroppable (operator : Operator) (n : Node) : Bool :=
  n.isEmpty || (operator == .and && n.isBareUnknown)

/-- The nodes that are not structurally equal to an earlier one, nor to one of `kept`. -/
def distinctFrom (kept : List Node) : List Node → List Node
  | [] => []
  | n :: rest =>
    if kept.any (·.structurallyEq n) then distinctFrom kept rest
    else n :: distinctFrom (n :: kept) rest

/-- The items of a composition that simplification keeps, in order. -/
def survivors (operator : Operator) (items : List Node) : List Node :=
  distinctFrom [] (items.filter fun n => !isDroppable operator n)

theorem mem_of_mem_distinctFrom {kept items : List Node} {n : Node}
    (h : n ∈ distinctFrom kept items) : n ∈ items := by
  induction items generalizing kept with
  | nil => simp [distinctFrom] at h
  | cons m rest ih =>
    unfold distinctFrom at h
    split at h
    · exact List.mem_cons_of_mem _ (ih h)
    · rcases List.mem_cons.1 h with rfl | h
      · exact List.mem_cons_self
      · exact List.mem_cons_of_mem _ (ih h)

theorem mem_of_mem_survivors {operator : Operator} {items : List Node} {n : Node}
    (h : n ∈ survivors operator items) : n ∈ items :=
  (List.mem_filter.1 (mem_of_mem_distinctFrom h)).1

theorem sizeOf_lt_of_mem_items {n m : Node} (h : m ∈ n.items) : sizeOf m < sizeOf n := by
  cases n
  simp only at h
  have := List.sizeOf_lt_of_mem h
  simp only [mk.sizeOf_spec]
  omega

/-- The node simplified, with other documentation in the place of its own. -/
def dedupeAs (docs : Docs) (n : Node) : Node :=
  match n.operator with
  | none => { n with docs }
  | some operator =>
    match _h : survivors operator n.items with
    | [] => empty
    | [m] => if m.isBareUnknown then empty else dedupeAs (m.docs.inherit docs) m
    | members => { n with items := members, docs }
termination_by sizeOf n
decreasing_by
  exact sizeOf_lt_of_mem_items (mem_of_mem_survivors (by rw [_h]; exact List.mem_cons_self))

/-- The node simplified. What is no composition, and the insides of items, stay as they are. -/
def dedupe (n : Node) : Node :=
  dedupeAs n.docs n

end ApiShape.Node
