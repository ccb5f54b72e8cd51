import ApiShape.Proofs.Node.StructuralEquality
import ApiShape.Proofs.Node.Undocumented
import Mathlib.Logic.Relation

/-!
# Equality up to documentation

Structural equality is equality of what is left of two nodes once documentation is erased at every
depth. On nodes without repeated names it is an equivalence, and the order in which properties and
required names stand makes no difference to it, at whatever depth they stand.
-/

namespace ApiShape.Node

variable {n m c : Node}

/-! ## Equality without documentation -/

mutual

/-- Nodes without documentation are equal if they are structurally equal. -/
theorem equal_undocumented :
    ∀ n m : Node, equal n.undocumented m.undocumented = structurallyEq n m
  | ⟨reference, type, items, operator, properties, required, additional, const, docs, constraints⟩,
    ⟨reference', type', items', operator', properties', required', additional', const', docs',
      constraints'⟩ => by
    rw [undocumented, undocumented, equal, structurallyEq]
    rw [equalItems_undocumented, equalProperties_undocumented, equalOption_undocumented,
      length_undocumentedProperties, length_undocumentedProperties]
    -- No documentation is left on either side; the other fields come in another order.
    have hdocs : (({} : Docs) == {}) = true := rfl
    rw [hdocs, Bool.and_true]
    simp only [Bool.and_assoc, Bool.and_comm, Bool.and_left_comm]

theorem equalItems_undocumented :
    ∀ ns ms : List Node, equalItems (undocumentedItems ns) (undocumentedItems ms) =
      structurallyEqItems ns ms
  | [], [] => by simp only [undocumentedItems, equalItems, structurallyEqItems]
  | [], _ :: _ => by simp only [undocumentedItems, equalItems, structurallyEqItems]
  | _ :: _, [] => by simp only [undocumentedItems, equalItems, structurallyEqItems]
  | n :: ns, m :: ms => by
    rw [undocumentedItems, undocumentedItems, equalItems, structurallyEqItems,
      equal_undocumented n m, equalItems_undocumented ns ms]

theorem equalProperties_undocumented :
    ∀ ns ms : List (String × Node),
      equalProperties (undocumentedProperties ns) (undocumentedProperties ms) =
        structurallyEqProperties ns ms
  | [], _ => by simp only [undocumentedProperties, equalProperties, structurallyEqProperties]
  | (name, n) :: ns, ms => by
    rw [undocumentedProperties, equalProperties, structurallyEqProperties,
      get?_undocumentedProperties, equalProperties_undocumented ns ms]
    cases Dict.get? ms name with
    | none => rfl
    | some m =>
      dsimp only [Option.map_some]
      rw [equal_undocumented n m]

theorem equalOption_undocumented :
    ∀ a b : Option Node, equalOption (undocumentedOption a) (undocumentedOption b) =
      structurallyEqOption a b
  | none, none => by simp only [undocumentedOption, equalOption, structurallyEqOption]
  | none, some _ => by simp only [undocumentedOption, equalOption, structurallyEqOption]
  | some _, none => by simp only [undocumentedOption, equalOption, structurallyEqOption]
  | some n, some m => by
    rw [undocumentedOption, undocumentedOption, equalOption, structurallyEqOption,
      equal_undocumented n m]

end

/-! ## Another order -/

/-- In one place, at any depth, properties or required names have come into another order. -/
inductive Reorders : Node → Node → Prop
  | properties {n : Node} {properties : List (String × Node)} (h : n.properties.Perm properties) :
      Reorders n { n with properties }
  | required {n : Node} {required : List String} (h : n.required.Perm required) :
      Reorders n { n with required }
  | item {n c c' : Node} {before after : List Node} (hn : n.items = before ++ c :: after)
      (h : Reorders c c') : Reorders n { n with items := before ++ c' :: after }
  | property {n c c' : Node} {name : String} {before after : List (String × Node)}
      (hn : n.properties = before ++ (name, c) :: after) (h : Reorders c c') :
      Reorders n { n with properties := before ++ (name, c') :: after }
  | additional {n c c' : Node} (hn : n.additional = some c) (h : Reorders c c') :
      Reorders n { n with additional := some c' }

theorem mem_children_iff :
    c ∈ n.children ↔ c ∈ n.items ∨ (∃ e ∈ n.properties, e.2 = c) ∨ n.additional = some c := by
  rw [children, List.mem_append, List.mem_append, List.mem_map, Option.mem_toList, or_assoc]

/-- A condition that holds at every depth of a node still does if children go or come that it holds in. -/
theorem Everywhere.exchange {Q : Node → Prop} (hn : n.Everywhere Q) (hm : Q m)
    (hc : c.Everywhere Q) (hchildren : ∀ k ∈ m.children, k = c ∨ k ∈ n.children) :
    m.Everywhere Q := by
  refine everywhere_iff.2 ⟨hm, fun k hk => ?_⟩
  rcases hchildren k hk with rfl | hk
  · exact hc
  · exact hn.child hk

/-- A dictionary in which one value is exchanged for a related one is related to the dictionary, if all
the other values are related to themselves. -/
theorem matches_exchange {R : Node → Node → Prop} {before after : Dict Node} {name : String}
    {c c' : Node} (hdistinct : Dict.Distinct (before ++ (name, c) :: after))
    (hself : ∀ e ∈ before ++ (name, c) :: after, R e.2 e.2) (hc : R c c') :
    Dict.Distinct (before ++ (name, c') :: after) ∧
      Dict.Matches R (before ++ (name, c) :: after) (before ++ (name, c') :: after) := by
  have hkeys : Dict.keys (before ++ (name, c') :: after) =
      Dict.keys (before ++ (name, c) :: after) := by
    simp only [Dict.keys, List.map_append, List.map_cons]
  have hdistinct' : Dict.Distinct (before ++ (name, c') :: after) := by
    rw [Dict.Distinct, hkeys]
    exact hdistinct
  have hget : ∀ e ∈ before ++ (name, c') :: after,
      Dict.get? (before ++ (name, c') :: after) e.1 = some e.2 := fun e he =>
    Dict.get?_eq_some_of_mem hdistinct' he
  refine ⟨hdistinct', by simp only [List.length_append, List.length_cons], fun e he => ?_⟩
  have hsame := hself e he
  rw [List.mem_append, List.mem_cons] at he
  rcases he with he | rfl | he
  · exact ⟨e.2, hget e (List.mem_append_left _ he), hsame⟩
  · exact ⟨c', hget (name, c') (List.mem_append_right _ List.mem_cons_self), hc⟩
  · exact ⟨e.2, hget e (List.mem_append_right _ (List.mem_cons_of_mem _ he)), hsame⟩

/-- Another order in one place makes no structural difference, and repeats no name. -/
theorem Reorders.structurallyEq (h : Reorders n m) (hn : n.Everywhere Proper) :
    m.Everywhere Proper ∧ n.structurallyEq m = true := by
  induction h with
  | @properties n ps h =>
    obtain ⟨hscalars, hitems, -, hadditional⟩ := structurallyEq_iff.1 (structurallyEq_refl hn)
    have hkeys : (Dict.keys n.properties).Perm (Dict.keys ps) := h.map _
    have hdistinct : Dict.Distinct ps := hkeys.nodup_iff.1 hn.self.properties
    refine ⟨everywhere_iff.2 ⟨⟨⟨hdistinct, hn.self.required⟩, hn.self.const⟩, fun c hc => ?_⟩,
      structurallyEq_iff.2 ⟨hscalars, hitems, ⟨h.length_eq, fun e he => ?_⟩, hadditional⟩⟩
    · rw [mem_children_iff] at hc
      simp only [← h.mem_iff] at hc
      exact hn.child (mem_children_iff.2 hc)
    · refine ⟨e.2, Dict.get?_eq_some_of_mem hdistinct (h.mem_iff.1 he), ?_⟩
      exact structurallyEq_refl (hn.child (mem_children_of_properties he))
  | @required n names h =>
    obtain ⟨⟨hreference, htype, hoperator, hconst, hconstraints, -⟩, hinside⟩ :=
      structurallyEq_iff.1 (structurallyEq_refl hn)
    have hnodup : names.Nodup := h.nodup_iff.1 hn.self.required
    refine ⟨everywhere_iff.2 ⟨⟨⟨hn.self.properties, hnodup⟩, hn.self.const⟩, fun c hc => ?_⟩, ?_⟩
    · exact hn.child hc
    · exact structurallyEq_iff.2
        ⟨⟨hreference, htype, hoperator, hconst, hconstraints, sameNames_of_perm h⟩, hinside⟩
  | @item n c c' before after hitems h ih =>
    obtain ⟨hscalars, -, hrest⟩ := structurallyEq_iff.1 (structurallyEq_refl hn)
    have hmem : ∀ k ∈ before ++ c :: after, k ∈ n.children := fun k hk =>
      mem_children_of_items (hitems ▸ hk)
    obtain ⟨hc', heq⟩ := ih (hn.child (hmem c (List.mem_append_right _ List.mem_cons_self)))
    have hsame : ∀ k ∈ before ++ c :: after, k.structurallyEq k = true := fun k hk =>
      structurallyEq_refl (hn.child (hmem k hk))
    rw [List.forall_mem_append, List.forall_mem_cons] at hsame
    obtain ⟨hbefore, -, hafter⟩ := hsame
    constructor
    · refine hn.exchange ⟨⟨hn.self.properties, hn.self.required⟩, hn.self.const⟩ hc' fun k hk => ?_
      simp only [mem_children_iff, hitems, List.mem_append, List.mem_cons] at hk ⊢
      grind
    · refine structurallyEq_iff.2 ⟨hscalars, ?_, hrest⟩
      rw [hitems]
      exact List.rel_append (List.forall₂_same.2 hbefore) (.cons heq (List.forall₂_same.2 hafter))
  | @property n c c' name before after hproperties h ih =>
    obtain ⟨hscalars, hitems, -, hadditional⟩ := structurallyEq_iff.1 (structurallyEq_refl hn)
    have hmem : ∀ e ∈ before ++ (name, c) :: after, e.2 ∈ n.children := fun e he =>
      mem_children_of_properties (hproperties ▸ he)
    obtain ⟨hc', heq⟩ := ih (hn.child (hmem (name, c) (List.mem_append_right _ List.mem_cons_self)))
    have hdistinct : Dict.Distinct (before ++ (name, c) :: after) := by
      rw [← hproperties]
      exact hn.self.properties
    obtain ⟨hdistinct', hmatches⟩ := matches_exchange
      (R := fun k k' => k.structurallyEq k' = true) hdistinct
      (fun e he => structurallyEq_refl (hn.child (hmem e he))) heq
    constructor
    · refine hn.exchange ⟨⟨hdistinct', hn.self.required⟩, hn.self.const⟩ hc' fun k hk => ?_
      simp only [mem_children_iff, hproperties, List.mem_append, List.mem_cons, or_and_right,
        exists_or, exists_eq_left] at hk ⊢
      grind
    · refine structurallyEq_iff.2 ⟨hscalars, hitems, ?_, hadditional⟩
      rw [hproperties]
      exact hmatches
  | @additional n c c' hadditional h ih =>
    obtain ⟨hscalars, hitems, hproperties, -⟩ := structurallyEq_iff.1 (structurallyEq_refl hn)
    obtain ⟨hc', heq⟩ := ih (hn.child (mem_children_of_additional hadditional))
    constructor
    · refine hn.exchange ⟨⟨hn.self.properties, hn.self.required⟩, hn.self.const⟩ hc' fun k hk => ?_
      simp only [mem_children_iff, Option.some.injEq] at hk ⊢
      grind
    · refine structurallyEq_iff.2 ⟨hscalars, hitems, hproperties, ?_⟩
      rw [hadditional]
      exact .some heq

/-- Another order in any places makes no structural difference, and repeats no name. -/
theorem structurallyEq_of_reordered (h : Relation.ReflTransGen Reorders n m)
    (hn : n.Everywhere Proper) : m.Everywhere Proper ∧ n.structurallyEq m = true := by
  induction h with
  | refl => exact ⟨hn, structurallyEq_refl hn⟩
  | tail _ hstep ih =>
    obtain ⟨hm, heq⟩ := ih
    obtain ⟨hk, heq'⟩ := hstep.structurallyEq hm
    exact ⟨hk, structurallyEq_trans heq heq'⟩

/-! ## An equivalence -/

/-- Structural equality is equality once documentation is erased at every depth. It is an equivalence
on nodes without repeated names, and in these the order of properties and of required names makes no
difference, at any depth and on either side. -/
theorem structurallyEq_equivalence :
    (∀ n m : Node, n.structurallyEq m = true ↔ (n.undocumented == m.undocumented) = true) ∧
    Equivalence (fun n m : { n : Node // n.Everywhere Proper } => n.1.structurallyEq m.1 = true) ∧
    ∀ n n' m m' : Node, n.Everywhere Proper → m.Everywhere Proper →
      Relation.ReflTransGen Reorders n n' → Relation.ReflTransGen Reorders m m' →
      (n'.structurallyEq m' = true ↔ n.structurallyEq m = true) := by
  refine ⟨fun n m => ?_, ⟨fun n => structurallyEq_refl n.2, fun {n m} h =>
    structurallyEq_symm n.2 m.2 h, fun h h' => structurallyEq_trans h h'⟩, ?_⟩
  · rw [← equal_undocumented n m]
    rfl
  · intro n n' m m' hn hm hreordered hreordered'
    obtain ⟨hn', hnn'⟩ := structurallyEq_of_reordered hreordered hn
    obtain ⟨hm', hmm'⟩ := structurallyEq_of_reordered hreordered' hm
    constructor
    · intro h
      have hnm' := structurallyEq_trans hnn' h
      exact structurallyEq_trans hnm' (structurallyEq_symm hm hm' hmm')
    · intro h
      have hn'm := structurallyEq_trans (structurallyEq_symm hn hn' hnn') h
      exact structurallyEq_trans hn'm hmm'

/-- A documented object, of which one property is an object in turn. -/
def lagoon : Node :=
  { type := some .object
    docs := { title := some "lagoon" }
    properties := [("depth", ofType .number), ("inlet",
      { type := some .object
        docs := { deprecated := some true }
        properties := [("width", ofType .number), ("name", ofType .string)] })]
    required := ["depth", "inlet"] }

/-- The same object with its properties, and those of its property, in another order. -/
def mirroredLagoon : Node :=
  { lagoon with
    properties := [("inlet",
      { type := some .object
        docs := { deprecated := some true }
        properties := [("name", ofType .string), ("width", ofType .number)] }),
      ("depth", ofType .number)] }

theorem structurallyEq_equivalence_lagoon : lagoon.Everywhere Proper ∧
    Relation.ReflTransGen Reorders lagoon mirroredLagoon ∧
    (lagoon == mirroredLagoon.undocumented) = false ∧
    mirroredLagoon.structurallyEq lagoon.undocumented = true := by
  have hproper : lagoon.Everywhere Proper := by decide +kernel
  have hproper' : lagoon.undocumented.Everywhere Proper := by decide +kernel
  -- First the inner properties are swapped, then the outer ones.
  have hreordered : Relation.ReflTransGen Reorders lagoon mirroredLagoon :=
    .tail (.single (@Reorders.property _ _ _ _ [("depth", ofType .number)] [] rfl
      (.properties (.swap ..)))) (.properties (.swap ..))
  refine ⟨hproper, hreordered, by decide +kernel, ?_⟩
  refine (structurallyEq_equivalence.2.2 lagoon mirroredLagoon lagoon.undocumented
    lagoon.undocumented hproper hproper' hreordered .refl).2 ?_
  decide +kernel

end ApiShape.Node
