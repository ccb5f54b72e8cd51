import ApiShape.Proofs.Graph.Dependencies
import Mathlib

/-!
# Dependencies by a walk, recursion by groups

The dependencies of a schema can be collected on a walk with a stack through its nodes, and the
recursive schemas can be told by the strongly connected groups of schemas: those in a group of
several, and those alone in a group that refer to themselves. Both ways agree with the references at
any depth and with the cycles of dependencies.
-/

namespace ApiShape.Graph

variable {g : Graph} {a b name : String} {found : List String} {n m : Node} {stack : List Node}

/-! ## The walk -/

/-- How many nodes are on a stack and inside the nodes there. -/
def pending (stack : List Node) : Nat :=
  (stack.flatMap Node.nested).length

theorem pending_children (n : Node) (rest : List Node) :
    pending (n.children.reverse ++ rest) < pending (n :: rest) := by
  have hnested : n.nested.length = (n.children.flatMap Node.nested).length + 1 := by
    rw [Node.nested_eq, List.length_cons]
  have hreverse : (n.children.reverse.flatMap Node.nested).length =
      (n.children.flatMap Node.nested).length :=
    ((List.reverse_perm n.children).flatMap_right Node.nested).length_eq
  unfold pending
  rw [List.flatMap_append, List.flatMap_cons, List.length_append, List.length_append, hreverse,
    hnested]
  omega

/-- The names found so far, and the schema that the node refers to unless it is among them. -/
def note (g : Graph) (found : List String) (n : Node) : List String :=
  match n.componentName? with
  | some name => if g.schemas.has name && !found.contains name then name :: found else found
  | none => found

/-- Takes nodes from a stack, puts the nodes right inside them on it, and notes the schemas that they
refer to. -/
def collect (g : Graph) (found : List String) (stack : List Node) : List String :=
  match stack with
  | [] => found
  | n :: rest => collect g (g.note found n) (n.children.reverse ++ rest)
termination_by pending stack
decreasing_by
  exact pending_children n rest

theorem mem_note_iff :
    name ∈ g.note found n ↔
      name ∈ found ∨ g.schemas.has name = true ∧ n.componentName? = some name := by
  unfold note
  cases hn : n.componentName? with
  | none => simp
  | some other =>
    by_cases hnew : g.schemas.has other = true ∧ other ∉ found
    · have hcond : (g.schemas.has other && !found.contains other) = true := by simpa using hnew
      simp only [hcond, if_true, List.mem_cons, Option.some.injEq]
      constructor
      · rintro (rfl | h)
        · exact .inr ⟨hnew.1, rfl⟩
        · exact .inl h
      · rintro (h | ⟨-, rfl⟩)
        · exact .inr h
        · exact .inl rfl
    · -- The name is no schema, or it has been found before.
      have hcond : (g.schemas.has other && !found.contains other) = false := by
        simpa using hnew
      simp only [hcond, Bool.false_eq_true, if_false, Option.some.injEq]
      refine ⟨.inl, ?_⟩
      rintro (h | ⟨hhas, rfl⟩)
      · exact h
      · exact Classical.not_not.1 fun hmem => hnew ⟨hhas, hmem⟩

theorem nodup_note (h : found.Nodup) : (g.note found n).Nodup := by
  unfold note
  split
  · split
    · rename_i hnew
      rw [Bool.and_eq_true, Bool.not_eq_true', List.contains_eq_mem, decide_eq_false_iff_not] at hnew
      exact List.nodup_cons.2 ⟨hnew.2, h⟩
    · exact h
  · exact h

/-- On the way the names found are those found before and those of the schemas that nodes on the stack
or inside them refer to. -/
theorem mem_collect_iff :
    name ∈ g.collect found stack ↔
      name ∈ found ∨ g.schemas.has name = true ∧
        ∃ n ∈ stack, ∃ m ∈ n.nested, m.componentName? = some name := by
  induction found, stack using collect.induct g with
  | case1 found =>
    rw [collect]
    simp
  | case2 found n rest ih =>
    rw [collect, ih, mem_note_iff]
    simp only [List.mem_append, List.mem_reverse, List.mem_cons, or_and_right,
      exists_or, Node.mem_nested_iff (n := n), exists_eq_left]
    -- What is inside the node is the node and what is inside its children.
    have hchildren : (∃ c ∈ n.children, ∃ m ∈ c.nested, m.componentName? = some name) ↔
        ∃ m, (∃ c ∈ n.children, m ∈ c.nested) ∧ m.componentName? = some name := by
      constructor
      · rintro ⟨c, hc, m, hm, h⟩
        exact ⟨m, ⟨c, hc, hm⟩, h⟩
      · rintro ⟨m, ⟨c, hc, hm⟩, h⟩
        exact ⟨c, hc, m, hm, h⟩
    rw [hchildren, or_assoc, ← and_or_left, or_assoc]

theorem nodup_collect (h : found.Nodup) : (g.collect found stack).Nodup := by
  induction found, stack using collect.induct g with
  | case1 found =>
    rw [collect]
    exact h
  | case2 found n rest ih =>
    rw [collect]
    exact ih (nodup_note h)

theorem nodup_dependencies (g : Graph) (a : String) : (g.dependencies a).Nodup := by
  unfold dependencies
  split
  · exact List.nodup_nil
  · exact nodup_eraseDups _

/-- The walk through a schema finds its dependencies, each once. -/
theorem perm_collect (h : g.schemas.get? a = some n) :
    (g.collect [] [n]).Perm (g.dependencies a) := by
  rw [List.perm_ext_iff_of_nodup (nodup_collect List.nodup_nil) (g.nodup_dependencies a)]
  intro b
  have hb : b ∈ g.dependencies a ↔ _ := dependsOn_iff
  rw [hb, mem_collect_iff]
  simp [h]

/-! ## Dependents -/

theorem mem_dependents_iff : a ∈ g.dependents b ↔ g.DependsOn a b := by
  unfold dependents
  rw [List.mem_filter, List.contains_iff_mem]
  constructor
  · exact And.right
  · intro h
    exact ⟨Dict.mem_keys_of_has (DependsOn.has_left h), h⟩

theorem DependsOn.has_right (h : g.DependsOn a b) : g.schemas.has b = true := by
  obtain ⟨_, _, hb, _⟩ := dependsOn_iff.1 h
  exact hb

/-! ## Groups -/

/-- The schemas fall into groups: those in a group lead to each other, and to no others that lead
back. -/
structure StronglyConnected (g : Graph) (groups : List (List String)) : Prop where
  covers : ∀ a, g.schemas.has a = true → ∃ group ∈ groups, a ∈ group
  nodup : ∀ group ∈ groups, group.Nodup
  mem_iff : ∀ group ∈ groups, ∀ a ∈ group, ∀ b, b ∈ group ↔
    Relation.ReflTransGen g.DependsOn a b ∧ Relation.ReflTransGen g.DependsOn b a

/-- The schemas of a group are recursive: there are several, or the only one refers to itself. -/
def isCyclic (g : Graph) : List String → Bool
  | [a] => (g.dependencies a).contains a
  | _ => true

/-- The recursive schemas, by the groups that the schemas fall into. -/
def recursiveIn (g : Graph) (groups : List (List String)) : List String :=
  (groups.filter g.isCyclic).flatten

variable {groups : List (List String)} {group : List String}

theorem StronglyConnected.transGen_of_isCyclic (h : g.StronglyConnected groups)
    (hgroup : group ∈ groups) (ha : a ∈ group) (hcyclic : g.isCyclic group = true) :
    Relation.TransGen g.DependsOn a a := by
  match group, hgroup, ha, hcyclic with
  | [x], _, ha, hcyclic =>
    cases List.mem_singleton.1 ha
    exact .single (List.contains_iff_mem.1 hcyclic)
  | x :: y :: rest, hgroup, ha, _ =>
    -- One of the first two is another schema, and leads there and back.
    have hne : x ≠ y := by
      have hnodup := h.nodup _ hgroup
      simp only [List.nodup_cons, List.mem_cons, not_or] at hnodup
      exact hnodup.1.1
    obtain ⟨b, hb, hab⟩ : ∃ b ∈ x :: y :: rest, b ≠ a := by
      by_cases hx : x = a
      · exact ⟨y, by simp, fun hy => hne (hx.trans hy.symm)⟩
      · exact ⟨x, by simp, hx⟩
    obtain ⟨hthere, hback⟩ := (h.mem_iff _ hgroup a ha b).1 hb
    have hthere := (Relation.reflTransGen_iff_eq_or_transGen.1 hthere).resolve_left hab
    exact hthere.trans_left hback

theorem StronglyConnected.isCyclic_of_transGen (h : g.StronglyConnected groups)
    (hgroup : group ∈ groups) (ha : a ∈ group) (hcycle : Relation.TransGen g.DependsOn a a) :
    g.isCyclic group = true := by
  obtain ⟨c, hac, hca⟩ := Relation.TransGen.head'_iff.1 hcycle
  have hc : c ∈ group := (h.mem_iff group hgroup a ha c).2 ⟨.single hac, hca⟩
  match group, ha, hc with
  | [x], ha, hc =>
    rw [List.mem_singleton] at ha hc
    subst ha hc
    exact List.contains_iff_mem.2 hac
  | x :: y :: rest, _, _ => rfl

/-- The schemas of cyclic groups are those that lead back to themselves. -/
theorem StronglyConnected.mem_recursiveIn_iff (h : g.StronglyConnected groups) :
    a ∈ g.recursiveIn groups ↔ Relation.TransGen g.DependsOn a a := by
  unfold recursiveIn
  simp only [List.mem_flatten, List.mem_filter]
  constructor
  · rintro ⟨group, ⟨hgroup, hcyclic⟩, ha⟩
    exact h.transGen_of_isCyclic hgroup ha hcyclic
  · intro hcycle
    obtain ⟨c, hac, -⟩ := Relation.TransGen.head'_iff.1 hcycle
    obtain ⟨group, hgroup, ha⟩ := h.covers a (DependsOn.has_left hac)
    exact ⟨group, ⟨hgroup, h.isCyclic_of_transGen hgroup ha hcycle⟩, ha⟩

/-- It is enough to look at what leads to what. -/
theorem stronglyConnected_of_reach (hcovers : ∀ a ∈ g.schemas.keys, ∃ group ∈ groups, a ∈ group)
    (hnodup : ∀ group ∈ groups, group.Nodup)
    (hinside : ∀ group ∈ groups, ∀ a ∈ group, ∀ b ∈ group,
      a = b ∨ (a, b) ∈ g.reach ∧ (b, a) ∈ g.reach)
    (hclosed : ∀ group ∈ groups, ∀ e ∈ g.reach, e.1 ∈ group → (e.2, e.1) ∈ g.reach → e.2 ∈ group) :
    g.StronglyConnected groups where
  covers a ha := hcovers a (Dict.mem_keys_of_has ha)
  nodup := hnodup
  mem_iff group hgroup a ha b := by
    constructor
    · intro hb
      rcases hinside group hgroup a ha b hb with rfl | ⟨hab, hba⟩
      · exact ⟨.refl, .refl⟩
      · exact ⟨(mem_reach_iff.1 hab).to_reflTransGen, (mem_reach_iff.1 hba).to_reflTransGen⟩
    · rintro ⟨hab, hba⟩
      rcases Relation.reflTransGen_iff_eq_or_transGen.1 hab with rfl | hab
      · exact ha
      · -- The way back has a step, as there is one on the way round.
        have hback : Relation.TransGen g.DependsOn b a :=
          (Relation.TransGen.trans_right hba hab).trans_left hba
        exact hclosed group hgroup (a, b) (mem_reach_iff.2 hab) ha (mem_reach_iff.2 hback)

/-! ## Dependencies, dependents and recursion -/

/-- A schema has another among its dependencies, once, if a node at any depth in it refers to the
other, and has as dependents the schemas of whose dependencies it is. It is recursive if one
dependency or several lead back to it, which the strongly connected groups tell as well. What is no
schema has no part in this. -/
theorem dependencies_and_recursion (g : Graph) (a b : String) :
    ((∃ n, g.schemas.get? a = some n ∧ g.schemas.has b = true ∧
        ∃ m ∈ n.nested, m.componentName? = some b) → (g.dependencies a).count b = 1) ∧
      ((¬ ∃ n, g.schemas.get? a = some n ∧ g.schemas.has b = true ∧
        ∃ m ∈ n.nested, m.componentName? = some b) → b ∉ g.dependencies a) ∧
      (b ∈ g.dependencies a ↔ a ∈ g.dependents b) ∧
      (g.isRecursive a = true ↔
        Relation.TransGen (fun x y => y ∈ g.dependencies x) a a) ∧
      (∀ groups, g.StronglyConnected groups → (g.isRecursive a = true ↔ a ∈ g.recursiveIn groups)) ∧
      (g.schemas.has a = false →
        g.dependencies a = [] ∧ g.dependents a = [] ∧ g.isRecursive a = false) := by
  refine ⟨fun h => ?_, fun h hb => h (dependsOn_iff.1 hb), mem_dependents_iff.symm, isRecursive_iff,
    fun groups h => isRecursive_iff.trans h.mem_recursiveIn_iff.symm, fun h => ⟨?_, ?_, ?_⟩⟩
  · exact List.count_eq_one_of_mem (g.nodup_dependencies a) (dependsOn_iff.2 h)
  · refine List.eq_nil_iff_forall_not_mem.2 fun c hc => ?_
    have hhas := DependsOn.has_left (show g.DependsOn a c from hc)
    rw [h] at hhas
    cases hhas
  · refine List.eq_nil_iff_forall_not_mem.2 fun c hc => ?_
    have hhas := (mem_dependents_iff.1 hc).has_right
    rw [h] at hhas
    cases hhas
  · refine Bool.eq_false_iff.2 fun hrecursive => ?_
    obtain ⟨c, hac, -⟩ := Relation.TransGen.head'_iff.1 (isRecursive_iff.1 hrecursive)
    have hhas := hac.has_left
    rw [h] at hhas
    cases hhas

/-- Books and their authors refer to each other, folders to folders, and a shelf to books. -/
def library : Graph :=
  ⟨[("Shelf", { type := some .array, items := [.ofReference "#/components/schemas/Book"] }),
    ("Book", {
      type := some .object
      properties := [("author", .ofReference "#/components/schemas/Author")] }),
    ("Author", {
      type := some .object
      properties := [
        ("first", .ofReference "#/components/schemas/Book"),
        ("last", .ofReference "#/components/schemas/Book")] }),
    ("Folder", {
      type := some .object
      additional := some (.ofReference "#/components/schemas/Folder") })]⟩

theorem stronglyConnected_library :
    library.StronglyConnected [["Author", "Book"], ["Shelf"], ["Folder"]] := by
  have hreach : library.reach = [("Shelf", "Book"), ("Book", "Author"), ("Author", "Book"),
      ("Folder", "Folder"), ("Shelf", "Author"), ("Author", "Author"), ("Book", "Book")] := by
    cbv
  refine stronglyConnected_of_reach ?_ ?_ ?_ ?_
  · decide
  · decide
  · rw [hreach]
    decide
  · rw [hreach]
    decide

/-- The author's two references to books count once, and lead back. -/
theorem dependencies_and_recursion_library :
    library.StronglyConnected [["Author", "Book"], ["Shelf"], ["Folder"]] ∧
      (library.dependencies "Author").count "Book" = 1 ∧
      library.isRecursive "Author" = true ∧ library.isRecursive "Shelf" = false ∧
      library.schemas.has "Page" = false ∧ library.dependencies "Page" = [] := by
  obtain ⟨hcount, -, -, -, hauthor, -⟩ := dependencies_and_recursion library "Author" "Book"
  obtain ⟨-, -, -, -, hshelf, -⟩ := dependencies_and_recursion library "Shelf" "Book"
  obtain ⟨-, -, -, -, -, hpage⟩ := dependencies_and_recursion library "Page" "Book"
  have hgroups : library.recursiveIn [["Author", "Book"], ["Shelf"], ["Folder"]] =
      ["Author", "Book", "Folder"] := by cbv
  have hhas : library.schemas.has "Page" = false := by cbv
  have hreference : (Node.ofReference "#/components/schemas/Book").componentName? =
      some "Book" := by cbv
  refine ⟨stronglyConnected_library, ?_, ?_, ?_, hhas, (hpage hhas).1⟩
  · refine hcount ⟨_, rfl, rfl, .ofReference "#/components/schemas/Book", ?_, hreference⟩
    exact List.mem_cons_of_mem _ List.mem_cons_self
  · rw [hauthor _ stronglyConnected_library, hgroups]
    decide
  · rw [Bool.eq_false_iff, Ne, hshelf _ stronglyConnected_library, hgroups]
    decide

end ApiShape.Graph
