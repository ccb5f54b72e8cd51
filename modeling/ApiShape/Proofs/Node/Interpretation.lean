import ApiShape.Proofs.Node.Normal
import Mathlib.Data.List.Forall2

/-!
# Interpretations of nodes

What values a node accepts, as far as it follows from how compositions combine their items. There is
a least interpretation, which accepts no more than the laws ask for. Simplifying a normal node loses
no value in any interpretation.
-/

namespace ApiShape

namespace Node

/-! ## Acceptance -/

/-- The nodes that accept a value, given those that do so by themselves: a union accepts what one of
its items accepts, an intersection what all of its items accept. -/
inductive Accepts (alone : Node → Prop) : Node → Prop
  | alone {n : Node} (h : alone n) : Accepts alone n
  | union {n m : Node} (ho : n.operator = some .or) (hm : m ∈ n.items) (h : Accepts alone m) :
      Accepts alone n
  | intersection {n : Node} (ho : n.operator = some .and) (h : ∀ m ∈ n.items, Accepts alone m) :
      Accepts alone n

variable {alone : Node → Prop} {n m : Node} {docs : Docs} {operator : Operator}

theorem accepts_iff_of_or (ho : n.operator = some .or) (hn : ¬ alone n) :
    n.Accepts alone ↔ ∃ m ∈ n.items, m.Accepts alone := by
  constructor
  · intro h
    cases h with
    | alone h => exact absurd h hn
    | union _ hm h => exact ⟨_, hm, h⟩
    | intersection ho' _ =>
      rw [ho] at ho'
      cases ho'
  · rintro ⟨m, hm, h⟩
    exact .union ho hm h

theorem accepts_iff_of_and (ho : n.operator = some .and) (hn : ¬ alone n) :
    n.Accepts alone ↔ ∀ m ∈ n.items, m.Accepts alone := by
  constructor
  · intro h
    cases h with
    | alone h => exact absurd h hn
    | union ho' _ _ =>
      rw [ho] at ho'
      cases ho'
    | intersection _ h => exact h
  · exact .intersection ho

/-! ## Structural equality -/

theorem forall₂_of_structurallyEqItems {ns ms : List Node}
    (h : structurallyEqItems ns ms = true) :
    List.Forall₂ (fun n m => n.structurallyEq m = true) ns ms := by
  induction ns generalizing ms with
  | nil =>
    cases ms with
    | nil => exact .nil
    | cons m ms => simp only [structurallyEqItems, Bool.false_eq_true] at h
  | cons n ns ih =>
    cases ms with
    | nil => simp only [structurallyEqItems, Bool.false_eq_true] at h
    | cons m ms =>
      rw [structurallyEqItems, Bool.and_eq_true] at h
      exact .cons h.1 (ih h.2)

theorem beq_none_congr {α : Type} [BEq α] {a b : Option α} (h : (a == b) = true) :
    (a == none) = (b == none) := by
  cases a <;> cases b <;> first | rfl | cases h

theorem isNone_congr {α : Type} [BEq α] {a b : Option α} (h : (a == b) = true) :
    a.isNone = b.isNone := by
  cases a <;> cases b <;> first | rfl | cases h

theorem constraints_beq_eq (a b : Constraints) :
    (a == b) = (a.format == b.format && (a.pattern == b.pattern && (a.minimum == b.minimum &&
      (a.maximum == b.maximum && (a.exclusiveMinimum == b.exclusiveMinimum &&
      (a.exclusiveMaximum == b.exclusiveMaximum && (a.minLength == b.minLength &&
      (a.maxLength == b.maxLength && (a.minItems == b.minItems && (a.maxItems == b.maxItems &&
      a.accessScope == b.accessScope)))))))))) :=
  rfl

/-- Equal validation keywords are there or not there together. -/
theorem constraints_beq_default_congr {a b : Constraints} (h : (a == b) = true) :
    (a == {}) = (b == {}) := by
  rw [constraints_beq_eq] at h
  simp only [Bool.and_eq_true] at h
  obtain ⟨h1, h2, h3, h4, h5, h6, h7, h8, h9, h10, h11⟩ := h
  rw [constraints_beq_eq, constraints_beq_eq, beq_none_congr h1, beq_none_congr h2,
    beq_none_congr h3, beq_none_congr h4, beq_none_congr h5, beq_none_congr h6, beq_none_congr h7,
    beq_none_congr h8, beq_none_congr h9, beq_none_congr h10, beq_none_congr h11]

/-- Structurally equal nodes have the same type and operator, have fields other than those and
documentation or not, and their items are structurally equal one by one. -/
theorem fields_of_structurallyEq (h : n.structurallyEq m = true) :
    n.type = m.type ∧ n.operator = m.operator ∧ n.isShapeless = m.isShapeless ∧
      List.Forall₂ (fun n m => n.structurallyEq m = true) n.items m.items := by
  -- Structural equality goes by the fields of the first node.
  obtain ⟨reference, type, items, operator, properties, required, additional, const, docs,
    constraints⟩ := n
  rw [structurallyEq] at h
  simp only [Bool.and_eq_true, beq_iff_eq] at h
  obtain ⟨⟨⟨⟨⟨⟨⟨⟨hreference, htype⟩, hoperator⟩, hconst⟩, hconstraints⟩, hrequired⟩, hitems⟩,
    hproperties, -⟩, hadditional⟩ := h
  have hitems := forall₂_of_structurallyEqItems hitems
  refine ⟨htype, hoperator, ?_, hitems⟩
  have hlength : ∀ {α β : Type} {as : List α} {bs : List β}, as.length = bs.length →
      as.isEmpty = bs.isEmpty := by
    intro α β as bs hlen
    cases as <;> cases bs <;> first | rfl | cases hlen
  have hsame : required.length = m.required.length := by
    unfold sameNames at hrequired
    rw [Bool.and_eq_true] at hrequired
    exact eq_of_beq hrequired.1
  have hnone : additional.isNone = m.additional.isNone := by
    revert hadditional
    generalize m.additional = other
    intro hadditional
    cases additional <;> cases other <;>
      first | rfl | simp only [structurallyEqOption, Bool.false_eq_true] at hadditional
  unfold isShapeless
  dsimp only
  rw [hreference, hoperator, hlength hitems.length_eq, hlength hproperties, hlength hsame, hnone,
    isNone_congr hconst, constraints_beq_default_congr hconstraints]

/-! ## Unconstrained nodes -/

/-- Nothing is set but documentation, or the type that says nothing. -/
def isBlank (n : Node) : Bool :=
  (n.type.isNone || n.type == some .unknown) && n.isShapeless

/-- The node accepts every value, as far as that follows from its compositions. -/
def Unconstrained (n : Node) : Prop :=
  n.Accepts fun m => m.isBlank = true

theorem operator_of_isBlank (h : n.isBlank = true) : n.operator = none := by
  unfold isBlank isShapeless at h
  simp only [Bool.and_eq_true, Option.isNone_iff_eq_none] at h
  exact h.2.1.1.1.1.1.2

theorem not_isBlank_of_operator (ho : n.operator = some operator) : ¬ n.isBlank = true := by
  intro h
  rw [operator_of_isBlank h] at ho
  cases ho

theorem isBlank_congr (h : n.structurallyEq m = true) : n.isBlank = m.isBlank := by
  obtain ⟨htype, -, hshapeless, -⟩ := fields_of_structurallyEq h
  unfold isBlank
  rw [htype, hshapeless]

theorem unconstrained_of_isEmpty (h : n.isEmpty = true) : n.Unconstrained := by
  refine .alone ?_
  unfold isEmpty at h
  rw [Bool.and_eq_true, Bool.and_eq_true] at h
  unfold isBlank
  rw [h.1.1, h.1.2]
  rfl

theorem unconstrained_of_isBareUnknown (h : n.isBareUnknown = true) : n.Unconstrained := by
  refine .alone ?_
  unfold isBareUnknown at h
  rw [Bool.and_eq_true] at h
  unfold isBlank
  rw [h.1, h.2, Bool.or_true]
  rfl

theorem not_unconstrained_of_leaf (ho : n.operator = none) (h : n.isBlank = false) :
    ¬ n.Unconstrained := by
  intro hn
  cases hn with
  | alone hblank =>
    rw [h] at hblank
    cases hblank
  | union ho' =>
    rw [ho] at ho'
    cases ho'
  | intersection ho' =>
    rw [ho] at ho'
    cases ho'

theorem unconstrained_withDocs (n : Node) (docs : Docs) :
    Unconstrained { n with docs } ↔ n.Unconstrained := by
  cases n
  constructor
  · intro h
    cases h with
    | alone h => exact .alone h
    | union ho hm h => exact .union ho hm h
    | intersection ho h => exact .intersection ho h
  · intro h
    cases h with
    | alone h => exact .alone h
    | union ho hm h => exact .union ho hm h
    | intersection ho h => exact .intersection ho h

/-- Acceptance carries over to nodes that correspond one to one, at every depth. -/
theorem Accepts.transfer {R : Node → Node → Prop} (halone : ∀ n m, R n m → alone n → alone m)
    (hoperator : ∀ n m, R n m → n.operator = m.operator)
    (hitems : ∀ n m, R n m → List.Forall₂ R n.items m.items) (h : n.Accepts alone) (hR : R n m) :
    m.Accepts alone := by
  induction h generalizing m with
  | alone h => exact .alone (halone _ _ hR h)
  | union ho hk _ ih =>
    obtain ⟨k', hk', hRk⟩ := exists_right_of_forall₂ (hitems _ _ hR) hk
    exact .union (hoperator _ _ hR ▸ ho) hk' (ih hRk)
  | intersection ho _ ih =>
    refine .intersection (hoperator _ _ hR ▸ ho) fun k hk => ?_
    obtain ⟨k', hk', hRk⟩ := exists_left_of_forall₂ (hitems _ _ hR) hk
    exact ih k' hk' hRk

theorem unconstrained_congr (h : n.structurallyEq m = true) :
    n.Unconstrained ↔ m.Unconstrained := by
  constructor
  · intro hn
    refine hn.transfer (R := fun n m => n.structurallyEq m = true) ?_ ?_ ?_ h
    · exact fun n m heq hblank => (isBlank_congr heq).symm.trans hblank
    · exact fun n m heq => (fields_of_structurallyEq heq).2.1
    · exact fun n m heq => (fields_of_structurallyEq heq).2.2.2
  · intro hm
    refine hm.transfer (R := fun m n => n.structurallyEq m = true) ?_ ?_ ?_ h
    · exact fun m n heq hblank => (isBlank_congr heq).trans hblank
    · exact fun m n heq => (fields_of_structurallyEq heq).2.1.symm
    · exact fun m n heq => (fields_of_structurallyEq heq).2.2.2.flip

/-! ## Interpretations -/

end Node

/-- The values that nodes accept, where compositions combine what their items accept, what says
nothing accepts everything, and structurally equal nodes accept the same. A node with other
documentation is structurally equal as well, but that has a law of its own, because the comparison
takes for granted that no name occurs twice. -/
structure Interpretation (V : Type) where
  accepts : Node → V → Prop
  structural : ∀ n m v, n.structurallyEq m = true → (accepts n v ↔ accepts m v)
  documentation : ∀ n docs v, accepts { n with docs } v ↔ accepts n v
  empty : ∀ n v, n.isEmpty = true → accepts n v
  unknown : ∀ n v, n.isBareUnknown = true → accepts n v
  intersection : ∀ n v, n.operator = some .and → (accepts n v ↔ ∀ m ∈ n.items, accepts m v)
  union : ∀ n v, n.operator = some .or → (accepts n v ↔ ∃ m ∈ n.items, accepts m v)

/-- The interpretation that accepts only what the laws ask for. -/
def Interpretation.least (V : Type) : Interpretation V where
  accepts n _ := n.Unconstrained
  structural _ _ _ h := Node.unconstrained_congr h
  documentation n docs _ := Node.unconstrained_withDocs n docs
  empty _ _ h := Node.unconstrained_of_isEmpty h
  unknown _ _ h := Node.unconstrained_of_isBareUnknown h
  intersection _ _ ho := Node.accepts_iff_of_and ho (Node.not_isBlank_of_operator ho)
  union _ _ ho := Node.accepts_iff_of_or ho (Node.not_isBlank_of_operator ho)

namespace Node

variable {V : Type} {I : Interpretation V} {v : V} {Shaped : Node → Node → Prop} {n m : Node}
  {docs : Docs} {operator : Operator} {items : List Node}

theorem Unconstrained.accepts (h : n.Unconstrained) (I : Interpretation V) (v : V) :
    I.accepts n v := by
  unfold Unconstrained at h
  induction h with
  | @alone n h =>
    unfold isBlank at h
    rw [Bool.and_eq_true, Bool.or_eq_true] at h
    obtain ⟨htype | htype, hshapeless⟩ := h
    · -- Without its documentation the node is empty.
      rw [← I.documentation n {} v]
      refine I.empty _ v ?_
      unfold isEmpty
      rw [htype, Bool.true_and]
      exact (Bool.and_eq_true _ _).mpr ⟨hshapeless, rfl⟩
    · refine I.unknown n v ?_
      unfold isBareUnknown
      rw [htype, hshapeless]
      rfl
  | union ho hm _ ih => exact (I.union _ v ho).2 ⟨_, hm, ih⟩
  | intersection ho _ ih => exact (I.intersection _ v ho).2 ih

/-- Every value that the node accepts is accepted by the other, in every interpretation. -/
def Below (n m : Node) : Prop :=
  ∀ (V : Type) (I : Interpretation V) (v : V), I.accepts n v → I.accepts m v

/-- What accepts everything is below no other nodes than those that accept everything. -/
theorem below_iff_of_unconstrained (h : n.Unconstrained) : n.Below m ↔ m.Unconstrained :=
  ⟨fun hbelow => hbelow Unit (.least Unit) () h, fun hm _ I v _ => hm.accepts I v⟩

/-! ## Simplification loses nothing of normal nodes -/

/-- The items of a normal union say something. -/
theorem Normal.isEmpty_of_mem (h : n.Normal Shaped) (ho : n.operator = some .or)
    (hm : m ∈ n.items) : m.isEmpty = false := by
  cases h with
  | enum items docs hitems =>
    obtain ⟨type, value, docs, htype, rfl⟩ := hitems m hm
    rfl
  | composition operator items docs hitems hs =>
    cases ho
    exact (Bool.or_eq_false_iff.1 (hs.not_isDroppable m hm)).1
  | _ => cases ho

theorem exists_survivor_accepts (hm : m ∈ items) (hempty : m.isEmpty = false)
    (h : I.accepts m v) : ∃ k ∈ survivors .or items, I.accepts k v := by
  have hd : isDroppable .or m = false := by
    unfold isDroppable
    rw [hempty]
    rfl
  rcases exists_mem_survivors hm hd with hk | ⟨k, hk, heq⟩
  · exact ⟨m, hk, h⟩
  · exact ⟨k, hk, (I.structural k m v heq).2 h⟩

theorem Normal.accepts_dedupeAs (h : n.Normal Shaped) (haccepts : I.accepts n v) :
    I.accepts (dedupeAs docs n) v := by
  revert h haccepts
  refine dedupeAs_induction (motive := fun _ n simple => n.Normal Shaped → I.accepts n v →
    I.accepts simple v) ?_ ?_ ?_ ?_ docs n
  · intro docs n _ _ haccepts
    exact (I.documentation n docs v).2 haccepts
  · intro docs n operator _ _ _ _ _
    exact I.empty empty v rfl
  · intro docs n operator m ho hs _ ih h haccepts
    have hmem : m ∈ n.items := (sublist_survivors operator n.items).subset
      (hs ▸ List.mem_singleton_self m)
    refine ih ((h.composed ho).normal_of_mem hmem) ?_
    cases operator with
    | and => exact (I.intersection n v ho).1 haccepts m hmem
    | or =>
      -- The item that accepts the value has no other survivor to stand for it.
      obtain ⟨k, hk, hkv⟩ := (I.union n v ho).1 haccepts
      obtain ⟨k', hk', hkv'⟩ := exists_survivor_accepts hk (h.isEmpty_of_mem ho hk) hkv
      rw [hs, List.mem_singleton] at hk'
      exact hk' ▸ hkv'
  · intro docs n operator ho _ h haccepts
    cases operator with
    | and =>
      refine (I.intersection { n with items := survivors .and n.items, docs } v ho).2 fun k hk => ?_
      exact (I.intersection n v ho).1 haccepts k ((sublist_survivors .and n.items).subset hk)
    | or =>
      obtain ⟨k, hk, hkv⟩ := (I.union n v ho).1 haccepts
      exact (I.union { n with items := survivors .or n.items, docs } v ho).2
        (exists_survivor_accepts hk (h.isEmpty_of_mem ho hk) hkv)

/-- A simplified union accepts what an item accepts that says something. -/
theorem below_dedupe_union (hitems : ∀ m ∈ items, m.Normal Shaped) (hm : m ∈ items)
    (hempty : m.isEmpty = false) :
    m.Below (dedupe { composition .or items with docs }) := by
  intro V I v h
  obtain ⟨k, hk, hkv⟩ := exists_survivor_accepts hm hempty h
  unfold dedupe
  rcases hs : survivors .or items with _ | ⟨k', _ | ⟨k'', rest⟩⟩
  · rw [hs] at hk
    cases hk
  · -- The item that stands for `m` takes the place of the union.
    rw [hs, List.mem_singleton] at hk
    subst hk
    rw [dedupeAs_of_single rfl hs]
    split
    · exact I.empty empty v rfl
    · have hmem : k ∈ items := (sublist_survivors .or items).subset
        (hs ▸ List.mem_singleton_self k)
      exact (hitems k hmem).accepts_dedupeAs hkv
  · have htwo : 2 ≤ (survivors .or items).length := by
      rw [hs]
      exact Nat.le_add_left 2 rest.length
    rw [dedupeAs_of_two_le rfl htwo]
    exact (I.union _ v rfl).2 ⟨k, hk, hkv⟩

end Node

end ApiShape
