import ApiShape.Node.Dedupe

/-!
# What simplification keeps

Of the items of a composition those survive that say something and are not structurally equal to an
earlier one. Every other item that says something is structurally equal to a survivor.
-/

namespace ApiShape.Node

variable {operator : Operator} {items kept : List Node} {n m : Node} {docs : Docs}

/-! ## Survivors -/

theorem sublist_distinctFrom (kept items : List Node) : (distinctFrom kept items).Sublist items := by
  induction items generalizing kept with
  | nil => exact List.Sublist.refl _
  | cons n rest ih =>
    rw [distinctFrom]
    split
    · exact (ih kept).cons n
    · exact (ih (n :: kept)).cons_cons n

theorem distinctFrom_ne (hk : m ∈ kept) (hn : n ∈ distinctFrom kept items) :
    m.structurallyEq n = false := by
  induction items generalizing kept with
  | nil => cases hn
  | cons n' rest ih =>
    rw [distinctFrom] at hn
    split at hn
    · exact ih hk hn
    · rename_i hnew
      rcases List.mem_cons.1 hn with rfl | hn
      · -- It was compared with all the nodes that were kept before.
        rw [List.any_eq_true, not_exists] at hnew
        exact Bool.eq_false_iff.2 fun h => hnew m ⟨hk, h⟩
      · exact ih (List.mem_cons_of_mem _ hk) hn

theorem pairwise_distinctFrom (kept items : List Node) :
    (distinctFrom kept items).Pairwise fun a b => a.structurallyEq b = false := by
  induction items generalizing kept with
  | nil => exact List.Pairwise.nil
  | cons n rest ih =>
    rw [distinctFrom]
    split
    · exact ih kept
    · exact List.Pairwise.cons (fun m hm => distinctFrom_ne List.mem_cons_self hm) (ih (n :: kept))

/-- What is not kept is structurally equal to something that is. -/
theorem exists_mem_distinctFrom (hn : n ∈ items) :
    n ∈ distinctFrom kept items ∨
      ∃ m, (m ∈ kept ∨ m ∈ distinctFrom kept items) ∧ m.structurallyEq n = true := by
  induction items generalizing kept with
  | nil => cases hn
  | cons n' rest ih =>
    rw [distinctFrom]
    split
    · rename_i hold
      rcases List.mem_cons.1 hn with rfl | hn
      · -- It is left out because of one that is kept.
        obtain ⟨m, hm, heq⟩ := List.any_eq_true.1 hold
        exact .inr ⟨m, .inl hm, heq⟩
      · exact ih hn
    · rcases List.mem_cons.1 hn with rfl | hn
      · exact .inl List.mem_cons_self
      · rcases ih hn with h | ⟨m, hm, heq⟩
        · exact .inl (List.mem_cons_of_mem _ h)
        · -- What stands for a later node was kept before, or is this node, or comes later.
          refine .inr ⟨m, ?_, heq⟩
          rcases hm with hm | hm
          · rcases List.mem_cons.1 hm with rfl | hm
            · exact .inr List.mem_cons_self
            · exact .inl hm
          · exact .inr (List.mem_cons_of_mem _ hm)

theorem distinctFrom_eq_self (hkept : ∀ m ∈ kept, ∀ n ∈ items, m.structurallyEq n = false)
    (h : items.Pairwise fun a b => a.structurallyEq b = false) :
    distinctFrom kept items = items := by
  induction items generalizing kept with
  | nil => rfl
  | cons n rest ih =>
    rw [List.pairwise_cons] at h
    have hnew : ¬ (kept.any (·.structurallyEq n)) = true := by
      rw [List.any_eq_true]
      rintro ⟨m, hm, heq⟩
      rw [hkept m hm n List.mem_cons_self] at heq
      cases heq
    rw [distinctFrom, if_neg hnew, ih _ h.2]
    intro m hm k hk
    rcases List.mem_cons.1 hm with rfl | hm
    · exact h.1 k hk
    · exact hkept m hm k (List.mem_cons_of_mem _ hk)

theorem sublist_survivors (operator : Operator) (items : List Node) :
    (survivors operator items).Sublist items :=
  (sublist_distinctFrom [] _).trans List.filter_sublist

theorem not_isDroppable_of_mem_survivors (h : n ∈ survivors operator items) :
    isDroppable operator n = false := by
  have := (List.mem_filter.1 (mem_of_mem_distinctFrom h)).2
  rwa [Bool.not_eq_true'] at this

theorem pairwise_survivors (operator : Operator) (items : List Node) :
    (survivors operator items).Pairwise fun a b => a.structurallyEq b = false :=
  pairwise_distinctFrom [] _

/-- What has more than a type and documentation is not dropped. -/
theorem isDroppable_of_isShapeless (h : n.isShapeless = false) : isDroppable operator n = false := by
  simp [isDroppable, isEmpty, isBareUnknown, h]

theorem isShapeless_of_properties_ne_nil (h : n.properties ≠ []) : n.isShapeless = false := by
  simp [isShapeless, List.isEmpty_eq_false_iff.2 h]

/-- An object with properties says something. -/
theorem isDroppable_of_properties_ne_nil (h : n.properties ≠ []) : isDroppable operator n = false :=
  isDroppable_of_isShapeless (isShapeless_of_properties_ne_nil h)

/-- An item that says something survives, or a structurally equal one does. -/
theorem exists_mem_survivors (hn : n ∈ items) (hd : isDroppable operator n = false) :
    n ∈ survivors operator items ∨
      ∃ m ∈ survivors operator items, m.structurallyEq n = true := by
  have hmem : n ∈ items.filter fun n => !isDroppable operator n :=
    List.mem_filter.2 ⟨hn, by rw [hd]; rfl⟩
  have hkept : n ∈ survivors operator items ∨
      ∃ m, (m ∈ [] ∨ m ∈ survivors operator items) ∧ m.structurallyEq n = true :=
    exists_mem_distinctFrom hmem
  rcases hkept with h | ⟨m, hm, heq⟩
  · exact .inl h
  · rcases hm with hm | hm
    · cases hm
    · exact .inr ⟨m, hm, heq⟩

/-- The items of a composition are at least two, say something, and no later one is structurally
equal to an earlier one. -/
structure Simplified (operator : Operator) (items : List Node) : Prop where
  two_le_length : 2 ≤ items.length
  not_isDroppable : ∀ n ∈ items, isDroppable operator n = false
  pairwise : items.Pairwise fun a b => a.structurallyEq b = false

theorem Simplified.survivors_eq (h : Simplified operator items) :
    survivors operator items = items := by
  have hfilter : (items.filter fun n => !isDroppable operator n) = items := by
    rw [List.filter_eq_self]
    intro n hn
    rw [h.not_isDroppable n hn]
    rfl
  rw [survivors, hfilter]
  exact distinctFrom_eq_self (fun _ hm => by cases hm) h.pairwise

theorem simplified_survivors (h : 2 ≤ (survivors operator items).length) :
    Simplified operator (survivors operator items) :=
  ⟨h, fun _ => not_isDroppable_of_mem_survivors, pairwise_survivors operator items⟩

/-! ## Simplification, case by case -/

theorem dedupeAs_of_operator_eq_none (h : n.operator = none) : dedupeAs docs n = { n with docs } := by
  unfold dedupeAs
  split
  · rfl
  · rename_i heq
    rw [h] at heq
    cases heq

theorem dedupeAs_of_nil (h : n.operator = some operator) (hs : survivors operator n.items = []) :
    dedupeAs docs n = empty := by
  unfold dedupeAs
  split
  · rename_i heq
    rw [h] at heq
    cases heq
  · rename_i heq
    rw [h] at heq
    cases heq
    split <;> simp_all

theorem dedupeAs_of_single (h : n.operator = some operator)
    (hs : survivors operator n.items = [m]) :
    dedupeAs docs n =
      if m.isBareUnknown then empty else dedupeAs (m.docs.inherit docs) m := by
  rw [dedupeAs]
  split
  · rename_i heq
    rw [h] at heq
    cases heq
  · rename_i heq
    rw [h] at heq
    cases heq
    split <;> simp_all

/-- A single survivor that is no composition takes the place of the composition. -/
theorem dedupeAs_of_single_leaf (h : n.operator = some operator)
    (hs : survivors operator n.items = [m]) (hm : m.isBareUnknown = false)
    (hleaf : m.operator = none) : dedupeAs docs n = { m with docs := m.docs.inherit docs } := by
  rw [dedupeAs_of_single h hs, if_neg (Bool.eq_false_iff.1 hm), dedupeAs_of_operator_eq_none hleaf]

theorem dedupeAs_of_two_le (h : n.operator = some operator)
    (hs : 2 ≤ (survivors operator n.items).length) :
    dedupeAs docs n = { n with items := survivors operator n.items, docs } := by
  unfold dedupeAs
  split
  · rename_i heq
    rw [h] at heq
    cases heq
  · rename_i heq
    rw [h] at heq
    cases heq
    split <;> simp_all

/-- A simplified composition stays as it is, apart from the documentation. -/
theorem dedupeAs_of_simplified (h : n.operator = some operator) (hs : Simplified operator n.items) :
    dedupeAs docs n = { n with docs } := by
  rw [dedupeAs_of_two_le h (by rw [hs.survivors_eq]; exact hs.two_le_length), hs.survivors_eq]

/-- To show something of all simplified nodes, it is enough to show it of nodes that are no
composition, of the empty node, of what a single survivor becomes, and of compositions that are left
with two survivors or more. -/
theorem dedupeAs_induction {motive : Docs → Node → Node → Prop}
    (leaf : ∀ docs n, n.operator = none → motive docs n { n with docs })
    (vanishes : ∀ docs n operator, n.operator = some operator →
      (∀ m ∈ survivors operator n.items, m.isBareUnknown = true) →
      (survivors operator n.items).length ≤ 1 → motive docs n empty)
    (lifts : ∀ docs n operator m, n.operator = some operator → survivors operator n.items = [m] →
      m.isBareUnknown = false →
      motive (m.docs.inherit docs) m (dedupeAs (m.docs.inherit docs) m) →
      motive docs n (dedupeAs (m.docs.inherit docs) m))
    (stays : ∀ docs n operator, n.operator = some operator →
      2 ≤ (survivors operator n.items).length →
      motive docs n { n with items := survivors operator n.items, docs })
    (docs : Docs) (n : Node) : motive docs n (dedupeAs docs n) := by
  induction docs, n using dedupeAs.induct with
  | case1 docs n h =>
    rw [dedupeAs_of_operator_eq_none h]
    exact leaf docs n h
  | case2 docs n operator h hs =>
    rw [dedupeAs_of_nil h hs]
    refine vanishes docs n operator h ?_ ?_
    · rw [hs]
      exact fun m hm => by cases hm
    · rw [hs]
      exact Nat.zero_le 1
  | case3 docs n operator h m hs hm =>
    rw [dedupeAs_of_single h hs, if_pos hm]
    refine vanishes docs n operator h ?_ ?_
    · rw [hs]
      exact fun k hk => (List.mem_singleton.1 hk) ▸ hm
    · rw [hs]
      exact Nat.le_refl 1
  | case4 docs n operator h m hs hm ih =>
    rw [dedupeAs_of_single h hs, if_neg hm]
    exact lifts docs n operator m h hs (Bool.eq_false_iff.2 hm) ih
  | case5 docs n operator h hnil hsingle =>
    -- Neither none nor one: there are at least two.
    have htwo : 2 ≤ (survivors operator n.items).length := by
      rcases hs : survivors operator n.items with _ | ⟨a, _ | ⟨b, rest⟩⟩
      · exact absurd hs hnil
      · exact absurd hs (hsingle a)
      · simp only [List.length_cons]
        omega
    rw [dedupeAs_of_two_le h htwo]
    exact stays docs n operator h htwo

end ApiShape.Node
