import ApiShape.Normalize.Schema
import ApiShape.Proofs.Dict
import ApiShape.Proofs.Node.Interpretation
import ApiShape.Proofs.Node.Simplified
import Mathlib.Data.List.Perm.Subperm

/-!
# Objects in intersections

An object that is put into an intersection is still there when the intersection is simplified and
null is let in: as an item, as what is left of the intersection, or in the form of an item that is
structurally equal to it. Such an item has the same properties and requires the same names.
-/

namespace ApiShape.Node

variable {n m part shape : Node} {items : List Node} {docs : Docs} {name : String}

/-! ## Structurally equal objects -/

/-- Every property and every required name of the node occurs once. -/
structure DistinctNames (n : Node) : Prop where
  properties : Dict.Distinct n.properties
  required : n.required.Nodup

theorem structurallyEq_withDocs (n m : Node) (docs : Docs) :
    structurallyEq { n with docs } m = n.structurallyEq m := by
  cases n
  rw [structurallyEq, structurallyEq]

/-- A list with no repetitions holds all of an equally long list that it lies in. -/
theorem mem_of_subset_of_length_eq {as bs : List String} (has : as.Nodup) (hsub : as ⊆ bs)
    (hlength : as.length = bs.length) (h : name ∈ bs) : name ∈ as := by
  have hperm : as.Perm bs :=
    (List.subperm_of_subset has hsub).perm_of_length_le (Nat.le_of_eq hlength.symm)
  exact hperm.mem_iff.2 h

theorem exists_of_structurallyEqProperties {ns ms : List (String × Node)}
    (h : structurallyEqProperties ns ms = true) {e : String × Node} (he : e ∈ ns) :
    ∃ m, Dict.get? ms e.1 = some m ∧ e.2.structurallyEq m = true := by
  induction ns with
  | nil => cases he
  | cons e' rest ih =>
    obtain ⟨k, n⟩ := e'
    rw [structurallyEqProperties, Bool.and_eq_true] at h
    rcases List.mem_cons.1 he with rfl | he
    · cases hget : Dict.get? ms k with
      | none => simp [hget] at h
      | some m => exact ⟨m, rfl, by simpa [hget] using h.1⟩
    · exact ih h.2 he

/-- If the names of the first of two structurally equal nodes are distinct, both have the same. -/
theorem names_of_structurallyEq (h : n.structurallyEq m = true) (hn : n.DistinctNames) :
    (∀ name ∈ m.required, name ∈ n.required) ∧
      ∀ name q, Dict.get? m.properties name = some q →
        ∃ p, Dict.get? n.properties name = some p ∧ p.structurallyEq q = true := by
  obtain ⟨hp, hr⟩ := hn
  obtain ⟨reference, type, items, operator, properties, required, additional, const, docs,
    constraints⟩ := n
  rw [structurallyEq] at h
  simp only [Bool.and_eq_true, beq_iff_eq, sameNames, List.all_eq_true, List.contains_iff_mem] at h
  obtain ⟨⟨⟨-, hlength, hsub⟩, -⟩, hcount, hproperties⟩ := h.1.1, h.1.2
  constructor
  · exact fun name hname => mem_of_subset_of_length_eq hr hsub hlength hname
  · intro name q hq
    have hkeys : properties.map (·.1) ⊆ m.properties.map (·.1) := by
      intro k hk
      obtain ⟨e, he, rfl⟩ := List.mem_map.1 hk
      obtain ⟨q', hq', -⟩ := exists_of_structurallyEqProperties hproperties he
      exact List.mem_map.2 ⟨_, Dict.mem_of_get?_eq_some hq', rfl⟩
    have hname : name ∈ properties.map (·.1) :=
      mem_of_subset_of_length_eq hp hkeys (by simpa using hcount)
        (List.mem_map.2 ⟨_, Dict.mem_of_get?_eq_some hq, rfl⟩)
    obtain ⟨⟨k, p⟩, he, rfl⟩ := List.mem_map.1 hname
    obtain ⟨q', hq', heq⟩ := exists_of_structurallyEqProperties hproperties he
    rw [hq] at hq'
    cases hq'
    exact ⟨p, Dict.get?_eq_some_of_mem hp he, heq⟩

/-- The node is the object, or one that is structurally equal to it, whatever its documentation. -/
def Represents (m shape : Node) : Prop :=
  (∃ docs, m = { shape with docs }) ∨ m.structurallyEq shape = true

theorem represents_self (shape : Node) : shape.Represents shape := by
  cases shape
  exact .inl ⟨_, rfl⟩

theorem Represents.withDocs (h : m.Represents shape) (docs : Docs) :
    Represents { m with docs } shape := by
  rcases h with ⟨_, rfl⟩ | h
  · exact .inl ⟨docs, rfl⟩
  · exact .inr (by rwa [structurallyEq_withDocs])

theorem Represents.operator (h : m.Represents shape) : m.operator = shape.operator := by
  rcases h with ⟨_, rfl⟩ | h
  · rfl
  · exact (fields_of_structurallyEq h).2.1

theorem Represents.isShapeless (h : m.Represents shape) : m.isShapeless = shape.isShapeless := by
  rcases h with ⟨_, rfl⟩ | h
  · rfl
  · exact (fields_of_structurallyEq h).2.2.1

/-- What represents an object requires the same names and has the same properties, up to
documentation. -/
theorem Represents.names (h : m.Represents shape) (hm : m.DistinctNames) :
    (∀ name ∈ shape.required, name ∈ m.required) ∧
      ∀ name q, Dict.get? shape.properties name = some q →
        ∃ p, Dict.get? m.properties name = some p ∧ (p = q ∨ p.structurallyEq q = true) := by
  rcases h with ⟨_, rfl⟩ | h
  · exact ⟨fun _ hname => hname, fun _ q hq => ⟨q, hq, .inl rfl⟩⟩
  · obtain ⟨hrequired, hproperties⟩ := names_of_structurallyEq h hm
    refine ⟨hrequired, fun name q hq => ?_⟩
    obtain ⟨p, hp, heq⟩ := hproperties name q hq
    exact ⟨p, hp, .inr heq⟩

/-! ## Conjuncts -/

/-- The node is the whole, or one of its items if it is an intersection. -/
def IsConjunct (m part : Node) : Prop :=
  m = part ∨ (part.operator = some .and ∧ m ∈ part.items)

/-- One of the conjuncts is the object, up to documentation. -/
def HasConjunct (part shape : Node) : Prop :=
  ∃ m : Node, m.IsConjunct part ∧ m.Represents shape

theorem HasConjunct.withDocs (h : part.HasConjunct shape) (docs : Docs) :
    HasConjunct { part with docs } shape := by
  obtain ⟨m, rfl | hm, hshape⟩ := h
  · exact ⟨_, .inl rfl, hshape.withDocs docs⟩
  · exact ⟨m, .inr hm, hshape⟩

theorem HasConjunct.isShapeless (h : part.HasConjunct shape) (hs : shape.isShapeless = false) :
    part.isShapeless = false := by
  obtain ⟨m, rfl | ⟨ho, -⟩, hshape⟩ := h
  · rw [hshape.isShapeless, hs]
  · simp [Node.isShapeless, ho]

/-- A simplified intersection has those of its items as conjuncts that are objects. -/
theorem hasConjunct_dedupe (hmem : shape ∈ items) (ho : shape.operator = none)
    (hs : shape.isShapeless = false) (docs : Docs) :
    HasConjunct (dedupe { composition .and items with docs }) shape := by
  obtain ⟨m, hm, hshape⟩ : ∃ m ∈ survivors .and items, m.Represents shape := by
    rcases exists_mem_survivors hmem (isDroppable_of_isShapeless hs) with h | ⟨m, hm, heq⟩
    · exact ⟨shape, h, represents_self shape⟩
    · exact ⟨m, hm, .inr heq⟩
  by_cases htwo : 2 ≤ (survivors .and items).length
  · have hdedupe : dedupe { composition .and items with docs } =
        { composition .and (survivors .and items) with docs } := dedupeAs_of_two_le rfl htwo
    rw [hdedupe]
    exact ⟨m, .inr ⟨rfl, hm⟩, hshape⟩
  · -- It is the only survivor, and takes the place of the intersection.
    have hsingle : survivors .and items = [m] := by
      have hpos := List.length_pos_of_mem hm
      obtain ⟨k, hk⟩ := List.length_eq_one_iff.1 (by omega : (survivors .and items).length = 1)
      rw [hk] at hm
      rw [hk, List.mem_singleton.1 hm]
    have hbare : m.isBareUnknown = false := by
      simp [isBareUnknown, hshape.isShapeless, hs]
    have hdedupe : dedupe { composition .and items with docs } =
        { m with docs := m.docs.inherit docs } :=
      dedupeAs_of_single_leaf rfl hsingle hbare (hshape.operator.trans ho)
    rw [hdedupe]
    exact ⟨_, .inl rfl, hshape.withDocs _⟩

/-! ## Null aside -/

/-- The part is the whole node or, if null is let in, the first item of the node's union of the part
with null. -/
def IsPart (nullable : Bool) (part n : Node) : Prop :=
  match nullable with
  | true => ∃ docs, n = { composition .or [part, ofType .null] with docs }
  | false => n = part

/-- A node with more than a type and documentation is one of the two items of its union with null. -/
theorem isPart_orNull (h : n.isShapeless = false) :
    IsPart true { n with docs := { default := n.docs.default } } (Schema.orNull n) := by
  refine ⟨_, dedupeAs_of_simplified rfl ⟨Nat.le_refl 2, ?_, ?_⟩⟩
  · simp only [composition, List.forall_mem_cons]
    exact ⟨isDroppable_of_isShapeless h, rfl, fun m hm => by cases hm⟩
  · rw [composition, List.pairwise_pair, structurallyEq_withDocs, Bool.eq_false_iff]
    intro heq
    obtain ⟨-, -, hshapeless, -⟩ := fields_of_structurallyEq heq
    rw [h] at hshapeless
    cases hshapeless

theorem HasConjunct.exists_isPart (h : n.HasConjunct shape) (hs : shape.isShapeless = false)
    (nullable : Bool) :
    ∃ part, IsPart nullable part (if nullable then Schema.orNull n else n) ∧
      part.HasConjunct shape := by
  cases nullable with
  | true => exact ⟨_, isPart_orNull (h.isShapeless hs), h.withDocs _⟩
  | false => exact ⟨n, rfl, h⟩

end ApiShape.Node
