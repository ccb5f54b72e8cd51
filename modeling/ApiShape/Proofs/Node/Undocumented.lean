import ApiShape.Proofs.Alongside.Pairing
import ApiShape.Proofs.Node.Nested
import ApiShape.Proofs.Node.Simplified
import ApiShape.Proofs.Report

/-!
# Nodes without documentation

Nodes that are equal once documentation is erased at every depth have the same shape. Simplification
looks at documentation in one place only: a node that has no field is dropped, and documentation is a
field. So that this makes no difference, documentation must stand where there is something to
document. What is then built in the same way of nodes of the same shape has the same shape.
-/

namespace ApiShape.Node

variable {n m : Node}

/-! ## Erasing documentation -/

mutual

/-- The node without documentation, its own and that of every node inside it. -/
def undocumented : Node → Node
  | ⟨reference, type, items, operator, properties, required, additional, const, _, constraints⟩ =>
    ⟨reference, type, undocumentedItems items, operator, undocumentedProperties properties, required,
      undocumentedOption additional, const, {}, constraints⟩

/-- The nodes of items without documentation. -/
def undocumentedItems : List Node → List Node
  | [] => []
  | n :: rest => undocumented n :: undocumentedItems rest

/-- The nodes of properties without documentation. -/
def undocumentedProperties : List (String × Node) → List (String × Node)
  | [] => []
  | (name, n) :: rest => (name, undocumented n) :: undocumentedProperties rest

/-- The node of additional properties without documentation. -/
def undocumentedOption : Option Node → Option Node
  | none => none
  | some n => some (undocumented n)

end

theorem undocumentedItems_eq (items : List Node) :
    undocumentedItems items = items.map undocumented := by
  induction items with
  | nil => rfl
  | cons n rest ih => rw [undocumentedItems, ih, List.map_cons]

theorem undocumentedProperties_eq (properties : List (String × Node)) :
    undocumentedProperties properties = properties.map fun e => (e.1, e.2.undocumented) := by
  induction properties with
  | nil => rfl
  | cons e rest ih => rw [undocumentedProperties, ih, List.map_cons]

theorem undocumentedOption_eq (additional : Option Node) :
    undocumentedOption additional = additional.map undocumented := by
  cases additional <;> rfl

theorem undocumented_eq (n : Node) :
    n.undocumented = { n with
      items := n.items.map undocumented
      properties := n.properties.map fun e => (e.1, e.2.undocumented)
      additional := n.additional.map undocumented
      docs := {} } := by
  cases n
  rw [undocumented, undocumentedItems_eq, undocumentedProperties_eq, undocumentedOption_eq]

/-! ## Structural equality -/

theorem get?_undocumentedProperties (properties : List (String × Node)) (name : String) :
    Dict.get? (undocumentedProperties properties) name =
      (Dict.get? properties name).map undocumented := by
  rw [undocumentedProperties_eq, Dict.get?_map]

theorem length_undocumentedProperties (properties : List (String × Node)) :
    (undocumentedProperties properties).length = properties.length := by
  rw [undocumentedProperties_eq, List.length_map]

mutual

/-- Structural equality does not look at documentation. -/
theorem structurallyEq_undocumented :
    ∀ n m : Node, structurallyEq n.undocumented m.undocumented = structurallyEq n m
  | ⟨reference, type, items, operator, properties, required, additional, const, docs, constraints⟩,
    ⟨reference', type', items', operator', properties', required', additional', const', docs',
      constraints'⟩ => by
    rw [undocumented, undocumented, structurallyEq, structurallyEq]
    rw [structurallyEqItems_undocumented, structurallyEqProperties_undocumented,
      structurallyEqOption_undocumented, length_undocumentedProperties,
      length_undocumentedProperties]

theorem structurallyEqItems_undocumented :
    ∀ ns ms : List Node, structurallyEqItems (undocumentedItems ns) (undocumentedItems ms) =
      structurallyEqItems ns ms
  | [], [] => rfl
  | [], _ :: _ => by simp only [undocumentedItems, structurallyEqItems]
  | _ :: _, [] => by simp only [undocumentedItems, structurallyEqItems]
  | n :: ns, m :: ms => by
    rw [undocumentedItems, undocumentedItems, structurallyEqItems, structurallyEqItems,
      structurallyEq_undocumented n m, structurallyEqItems_undocumented ns ms]

theorem structurallyEqProperties_undocumented :
    ∀ ns ms : List (String × Node),
      structurallyEqProperties (undocumentedProperties ns) (undocumentedProperties ms) =
        structurallyEqProperties ns ms
  | [], _ => by simp only [undocumentedProperties, structurallyEqProperties]
  | (name, n) :: ns, ms => by
    rw [undocumentedProperties, structurallyEqProperties, structurallyEqProperties,
      get?_undocumentedProperties, structurallyEqProperties_undocumented ns ms]
    cases Dict.get? ms name with
    | none => rfl
    | some m =>
      dsimp only [Option.map_some]
      rw [structurallyEq_undocumented n m]

theorem structurallyEqOption_undocumented :
    ∀ a b : Option Node, structurallyEqOption (undocumentedOption a) (undocumentedOption b) =
      structurallyEqOption a b
  | none, none => rfl
  | none, some _ => by simp only [undocumentedOption, structurallyEqOption]
  | some _, none => by simp only [undocumentedOption, structurallyEqOption]
  | some n, some m => by
    rw [undocumentedOption, undocumentedOption, structurallyEqOption, structurallyEqOption,
      structurallyEq_undocumented n m]

end

/-! ## What there is to document -/

/-- The node says more than its documentation does. -/
def IsSubstantial (n : Node) : Prop :=
  n.type.isSome = true ∨ n.isShapeless = false

/-- The node has no documentation, or there is something to document. -/
def HasSubject (n : Node) : Prop :=
  n.docs = {} ∨ n.IsSubstantial

theorem isSubstantial_of_operator (h : n.operator.isSome = true) : n.IsSubstantial := by
  refine .inr ?_
  obtain ⟨operator, hoperator⟩ := Option.isSome_iff_exists.1 h
  simp [isShapeless, hoperator]

theorem isSubstantial_of_not_isEmpty (hn : n.HasSubject) (h : n.isEmpty = false) :
    n.IsSubstantial := by
  rcases hn with hdocs | hn
  · unfold isEmpty at h
    rw [hdocs, Bool.and_eq_false_iff, Bool.and_eq_false_iff] at h
    rcases h with (h | h) | h
    · exact .inl (by rwa [Option.isNone_eq_false_iff] at h)
    · exact .inr h
    · cases h
  · exact hn

/-- Documentation where there is something to document does not keep a node from being empty. -/
theorem isEmpty_of_hasSubject (hn : n.HasSubject) :
    n.isEmpty = (n.type.isNone && n.isShapeless) := by
  unfold isEmpty
  rcases hn with hdocs | htype | hshape
  · rw [hdocs]
    exact Bool.and_true _
  · obtain ⟨type, htype⟩ := Option.isSome_iff_exists.1 htype
    rw [htype]
    rfl
  · rw [hshape, Bool.and_false]
    rfl

/-! ## The same shape -/

/-- The nodes are equal but for documentation, which stands only where there is something to
document. -/
structure SameShape (n m : Node) : Prop where
  undocumented : n.undocumented = m.undocumented
  left : n.Everywhere HasSubject
  right : m.Everywhere HasSubject

/-- The nodes are equal apart from what is in them and from documentation. -/
structure SameFrame (n m : Node) : Prop where
  reference : n.reference = m.reference
  type : n.type = m.type
  operator : n.operator = m.operator
  required : n.required = m.required
  const : n.const = m.const
  constraints : n.constraints = m.constraints

theorem forall₂_of_undocumented {ns ms : List Node}
    (h : List.Forall₂ (fun n m => n.undocumented = m.undocumented) ns ms)
    (hleft : ∀ n ∈ ns, n.Everywhere HasSubject) (hright : ∀ m ∈ ms, m.Everywhere HasSubject) :
    List.Forall₂ SameShape ns ms := by
  induction h with
  | nil => exact .nil
  | cons hnode _ ih =>
    have hrest := ih (fun n hn => hleft n (List.mem_cons_of_mem _ hn))
      fun m hm => hright m (List.mem_cons_of_mem _ hm)
    exact .cons ⟨hnode, hleft _ List.mem_cons_self, hright _ List.mem_cons_self⟩ hrest

namespace SameShape

theorem frame (h : n.SameShape m) : n.SameFrame m := by
  have heq := h.undocumented
  rw [undocumented_eq, undocumented_eq] at heq
  injection heq with hreference htype hitems hoperator hproperties hrequired hadditional hconst hdocs
    hconstraints
  exact ⟨hreference, htype, hoperator, hrequired, hconst, hconstraints⟩

theorem items (h : n.SameShape m) : List.Forall₂ SameShape n.items m.items := by
  have heq := h.undocumented
  rw [undocumented_eq, undocumented_eq] at heq
  injection heq with _ _ hitems
  exact forall₂_of_undocumented (map_eq_map_iff.1 hitems) (fun _ ha => h.left.item ha)
    fun _ hb => h.right.item hb

theorem properties (h : n.SameShape m) :
    List.Forall₂ (Named SameShape) n.properties m.properties := by
  have heq := h.undocumented
  rw [undocumented_eq, undocumented_eq] at heq
  injection heq with _ _ _ _ hproperties
  have hleft : ∀ e ∈ n.properties, e.2.Everywhere HasSubject := fun e he =>
    h.left.child (List.mem_append_left _ (List.mem_append_right _ (List.mem_map_of_mem he)))
  have hright : ∀ e ∈ m.properties, e.2.Everywhere HasSubject := fun e he =>
    h.right.child (List.mem_append_left _ (List.mem_append_right _ (List.mem_map_of_mem he)))
  have hentries := map_eq_map_iff.1 hproperties
  revert hleft hright hentries
  generalize n.properties = ns
  generalize m.properties = ms
  intro hleft hright hentries
  induction hentries with
  | nil => exact .nil
  | cons he _ ih =>
    rw [Prod.mk.injEq] at he
    refine .cons ⟨he.1, he.2, hleft _ List.mem_cons_self, hright _ List.mem_cons_self⟩ (ih ?_ ?_)
    · exact fun e he => hleft e (List.mem_cons_of_mem _ he)
    · exact fun e he => hright e (List.mem_cons_of_mem _ he)

theorem additional (h : n.SameShape m) : Option.Rel SameShape n.additional m.additional := by
  have heq := h.undocumented
  rw [undocumented_eq, undocumented_eq] at heq
  injection heq with _ _ _ _ _ _ hadditional
  have hleft : ∀ a ∈ n.additional, a.Everywhere HasSubject := fun a ha =>
    h.left.child (List.mem_append_right _ (Option.mem_toList.2 ha))
  have hright : ∀ b ∈ m.additional, b.Everywhere HasSubject := fun b hb =>
    h.right.child (List.mem_append_right _ (Option.mem_toList.2 hb))
  revert hadditional hleft hright
  cases n.additional with
  | none =>
    cases m.additional with
    | none => exact fun _ _ _ => .none
    | some b => exact nofun
  | some a =>
    cases m.additional with
    | none => exact nofun
    | some b => exact fun heq hleft hright => .some ⟨Option.some.inj heq, hleft a rfl, hright b rfl⟩

theorem isShapeless_eq (h : n.SameShape m) : n.isShapeless = m.isShapeless := by
  have hframe := h.frame
  have hadditional : n.additional.isNone = m.additional.isNone := by
    rw [← Option.not_isSome, ← Option.not_isSome, isSome_eq_of_rel h.additional]
  unfold isShapeless
  rw [hframe.reference, hframe.operator, hframe.required, hframe.const, hframe.constraints,
    isEmpty_eq_of_forall₂ h.items, isEmpty_eq_of_forall₂ h.properties, hadditional]

theorem isSubstantial (h : n.SameShape m) (hn : n.IsSubstantial) : m.IsSubstantial := by
  unfold IsSubstantial at hn ⊢
  rwa [← h.frame.type, ← h.isShapeless_eq]

end SameShape

/-- Nodes of the same frame, with nodes of the same shape in them, have the same shape if there is
something to document where there is documentation. -/
theorem SameFrame.sameShape (h : n.SameFrame m) (hitems : List.Forall₂ SameShape n.items m.items)
    (hproperties : List.Forall₂ (Named SameShape) n.properties m.properties)
    (hadditional : Option.Rel SameShape n.additional m.additional) (hn : n.HasSubject)
    (hm : m.HasSubject) : n.SameShape m := by
  have hadditionals := forall₂_toList hadditional
  refine ⟨?_, everywhere_iff.2 ⟨hn, fun c hc => ?_⟩, everywhere_iff.2 ⟨hm, fun c hc => ?_⟩⟩
  · -- Without documentation, what is in the nodes is equal, and so are the frames.
    have hitems' : n.items.map undocumented = m.items.map undocumented :=
      map_eq_map_iff.2 (hitems.imp fun _ _ h => h.undocumented)
    have hproperties' : (n.properties.map fun e => (e.1, e.2.undocumented)) =
        m.properties.map fun e => (e.1, e.2.undocumented) :=
      map_eq_map_iff.2 (hproperties.imp fun _ _ h => Prod.ext h.1 h.2.undocumented)
    have hadditional' : n.additional.map undocumented = m.additional.map undocumented := by
      revert hadditional
      cases n.additional <;> cases m.additional <;> intro hadditional <;> cases hadditional
      · rfl
      · rename_i h
        exact congrArg some h.undocumented
    rw [undocumented_eq, undocumented_eq, hitems', hproperties', hadditional', h.reference, h.type,
      h.operator, h.required, h.const, h.constraints]
  · simp only [children, List.mem_append, List.mem_map] at hc
    rcases hc with (hc | ⟨e, he, rfl⟩) | hc
    · obtain ⟨b, -, hb⟩ := exists_right_of_forall₂ hitems hc
      exact hb.left
    · obtain ⟨e', -, he'⟩ := exists_right_of_forall₂ hproperties he
      exact he'.2.left
    · obtain ⟨b, -, hb⟩ := exists_right_of_forall₂ hadditionals hc
      exact hb.left
  · simp only [children, List.mem_append, List.mem_map] at hc
    rcases hc with (hc | ⟨e, he, rfl⟩) | hc
    · obtain ⟨a, -, ha⟩ := exists_left_of_forall₂ hitems hc
      exact ha.right
    · obtain ⟨e', -, he'⟩ := exists_left_of_forall₂ hproperties he
      exact he'.2.right
    · obtain ⟨a, -, ha⟩ := exists_left_of_forall₂ hadditionals hc
      exact ha.right

/-! ## Simplification -/

namespace SameShape

/-- Documentation can be changed if there is something to document then. -/
theorem withDocs (h : n.SameShape m) {docs docs' : Docs} (hn : HasSubject { n with docs })
    (hm : HasSubject { m with docs := docs' }) :
    SameShape { n with docs } { m with docs := docs' } := by
  have hframe := h.frame
  exact SameFrame.sameShape ⟨hframe.1, hframe.2, hframe.3, hframe.4, hframe.5, hframe.6⟩ h.items
    h.properties h.additional hn hm

theorem isBareUnknown_eq (h : n.SameShape m) : n.isBareUnknown = m.isBareUnknown := by
  unfold isBareUnknown
  rw [h.frame.type, h.isShapeless_eq]

theorem isDroppable_eq (h : n.SameShape m) (operator : Operator) :
    isDroppable operator n = isDroppable operator m := by
  unfold isDroppable
  rw [isEmpty_of_hasSubject h.left.self, isEmpty_of_hasSubject h.right.self, h.frame.type,
    h.isShapeless_eq, h.isBareUnknown_eq]

theorem structurallyEq_eq {k l : Node} (h : n.SameShape m) (h' : k.SameShape l) :
    n.structurallyEq k = m.structurallyEq l := by
  rw [← structurallyEq_undocumented n k, h.undocumented, h'.undocumented,
    structurallyEq_undocumented]

theorem distinctFrom {kept kept' items items' : List Node}
    (hkept : List.Forall₂ SameShape kept kept') (hitems : List.Forall₂ SameShape items items') :
    List.Forall₂ SameShape (Node.distinctFrom kept items) (Node.distinctFrom kept' items') := by
  induction hitems generalizing kept kept' with
  | nil => exact .nil
  | @cons n m _ _ hnode _ ih =>
    have hany : kept.any (·.structurallyEq n) = kept'.any (·.structurallyEq m) := by
      clear ih
      induction hkept with
      | nil => rfl
      | cons hk _ ih => rw [List.any_cons, List.any_cons, hk.structurallyEq_eq hnode, ih]
    rw [Node.distinctFrom, Node.distinctFrom, hany]
    split
    · exact ih hkept
    · exact .cons hnode (ih (.cons hnode hkept))

/-- The survivors have the same shapes. -/
theorem survivors {items items' : List Node} (h : List.Forall₂ SameShape items items')
    (operator : Operator) :
    List.Forall₂ SameShape (Node.survivors operator items) (Node.survivors operator items') := by
  refine distinctFrom .nil (List.rel_filter ?_ h)
  intro n m hnode
  show (!isDroppable operator n) = true ↔ (!isDroppable operator m) = true
  rw [hnode.isDroppable_eq operator]

/-- If there is a single survivor, it has the same shape as the other single survivor. -/
theorem exists_survivors_eq_singleton (h : n.SameShape m) {operator : Operator} {k : Node}
    (hsingle : Node.survivors operator n.items = [k]) :
    ∃ l, Node.survivors operator m.items = [l] ∧ k.SameShape l := by
  have hsurvivors := survivors h.items operator
  rw [hsingle, List.forall₂_cons_left_iff] at hsurvivors
  obtain ⟨l, rest, hkl, hrest, hsingle'⟩ := hsurvivors
  rw [List.forall₂_nil_left_iff.1 hrest] at hsingle'
  exact ⟨l, hsingle', hkl⟩

theorem empty : SameShape Node.empty Node.empty :=
  SameFrame.sameShape ⟨rfl, rfl, rfl, rfl, rfl, rfl⟩ .nil .nil .none (.inl rfl) (.inl rfl)

/-- Nodes of the same shape are simplified to nodes of the same shape, whatever documentation is put
in the place of their own. -/
theorem dedupeAs (h : n.SameShape m) (hn : n.IsSubstantial) (docs docs' : Docs) :
    SameShape (Node.dedupeAs docs n) (Node.dedupeAs docs' m) := by
  have hoperator := h.frame.operator
  induction docs, n using Node.dedupeAs.induct generalizing docs' m with
  | case1 docs n hnone =>
    rw [dedupeAs_of_operator_eq_none hnone, dedupeAs_of_operator_eq_none (hoperator.symm.trans hnone)]
    exact h.withDocs (.inr hn) (.inr (h.isSubstantial hn))
  | case2 docs n operator hsome hnil =>
    have hsurvivors := survivors h.items operator
    rw [hnil, List.forall₂_nil_left_iff] at hsurvivors
    rw [dedupeAs_of_nil hsome hnil, dedupeAs_of_nil (hoperator.symm.trans hsome) hsurvivors]
    exact empty
  | case3 docs n operator hsome k hsingle hunknown =>
    obtain ⟨l, hsingle', hkl⟩ := h.exists_survivors_eq_singleton hsingle
    rw [dedupeAs_of_single hsome hsingle, dedupeAs_of_single (hoperator.symm.trans hsome) hsingle',
      ← hkl.isBareUnknown_eq, if_pos hunknown, if_pos hunknown]
    exact empty
  | case4 docs n operator hsome k hsingle hunknown ih =>
    obtain ⟨l, hsingle', hkl⟩ := h.exists_survivors_eq_singleton hsingle
    rw [dedupeAs_of_single hsome hsingle, dedupeAs_of_single (hoperator.symm.trans hsome) hsingle',
      ← hkl.isBareUnknown_eq, if_neg hunknown, if_neg hunknown]
    -- What survives is not empty, so it has something to document.
    have hdroppable : isDroppable operator k = false :=
      not_isDroppable_of_mem_survivors (by rw [hsingle]; exact List.mem_singleton_self k)
    have hempty : k.isEmpty = false := by
      unfold isDroppable at hdroppable
      rw [Bool.or_eq_false_iff] at hdroppable
      exact hdroppable.1
    exact ih hkl (isSubstantial_of_not_isEmpty hkl.left.self hempty) _ hkl.frame.operator
  | case5 docs n operator hsome hnil hsingle =>
    -- A union of several is something to document, whatever survives.
    have hsurvivors := survivors h.items operator
    have htwo : 2 ≤ (Node.survivors operator n.items).length := by
      rcases hs : Node.survivors operator n.items with _ | ⟨a, _ | ⟨b, rest⟩⟩
      · exact absurd hs hnil
      · exact absurd hs (hsingle a)
      · simp only [List.length_cons]
        omega
    rw [dedupeAs_of_two_le hsome htwo,
      dedupeAs_of_two_le (hoperator.symm.trans hsome) (hsurvivors.length_eq ▸ htwo)]
    have hframe := h.frame
    have hsubstantial : ∀ items docs, IsSubstantial { n with items, docs } :=
      fun _ _ => isSubstantial_of_operator (by rw [hsome]; rfl)
    have hsubstantial' : ∀ items docs, IsSubstantial { m with items, docs } :=
      fun _ _ => isSubstantial_of_operator (by rw [← hoperator, hsome]; rfl)
    exact SameFrame.sameShape ⟨hframe.1, hframe.2, hframe.3, hframe.4, hframe.5, hframe.6⟩ hsurvivors
      h.properties h.additional (.inr (hsubstantial _ _)) (.inr (hsubstantial' _ _))

end SameShape

/-! ## Building -/

theorem sameShape_ofType (type : NodeType) : SameShape (.ofType type) (.ofType type) :=
  SameFrame.sameShape ⟨rfl, rfl, rfl, rfl, rfl, rfl⟩ .nil .nil .none (.inl rfl) (.inl rfl)

theorem sameShape_combined {type : Option NodeType} {operator : Option Operator}
    {items items' : List Node} {docs docs' : Docs}
    (h : type.isSome = true ∨ operator.isSome = true) (hitems : List.Forall₂ SameShape items items') :
    SameShape { type, operator, items, docs } { type, operator, items := items', docs := docs' } := by
  have hsubstantial : ∀ items docs, IsSubstantial { type, operator, items, docs } := by
    intro items docs
    rcases h with h | h
    · exact .inl h
    · exact isSubstantial_of_operator h
  exact SameFrame.sameShape ⟨rfl, rfl, rfl, rfl, rfl, rfl⟩ hitems .nil .none
    (.inr (hsubstantial _ _)) (.inr (hsubstantial _ _))

theorem sameShape_dedupe {operator : Operator} {items items' : List Node}
    (hitems : List.Forall₂ SameShape items items') (docs docs' : Docs) :
    SameShape (Node.dedupe { Node.composition operator items with docs })
      (Node.dedupe { Node.composition operator items' with docs := docs' }) :=
  (sameShape_combined (.inr rfl) hitems).dedupeAs (isSubstantial_of_operator rfl) _ _

/-- Requiring properties does not leave a node with less to document. -/
theorem hasSubject_promote (h : n.HasSubject) (required : List String) :
    (Schema.promote required n).HasSubject := by
  rcases h with hdocs | htype | hshape
  · exact .inl hdocs
  · exact .inr (.inl htype)
  · refine .inr (.inr ?_)
    have hempty : (n.required ++ required.filter (Dict.has n.properties)).eraseDups.isEmpty = true →
        n.required.isEmpty = true := by
      cases n.required with
      | nil => exact fun _ => rfl
      | cons name rest =>
        rw [List.cons_append, List.eraseDups_cons]
        exact nofun
    -- Required names are only added, so that without any there were none before.
    rw [Bool.eq_false_iff] at hshape ⊢
    intro hshapeless
    apply hshape
    simp only [isShapeless, Schema.promote, Bool.and_eq_true] at hshapeless ⊢
    obtain ⟨⟨⟨⟨h, hrequired⟩, hadditional⟩, hconst⟩, hconstraints⟩ := hshapeless
    exact ⟨⟨⟨⟨h, hempty hrequired⟩, hadditional⟩, hconst⟩, hconstraints⟩

theorem sameShape_promote (h : n.SameShape m) (required : List String) :
    SameShape (Schema.promote required n) (Schema.promote required m) := by
  have hframe := h.frame
  have hhas : required.filter (Dict.has n.properties) = required.filter (Dict.has m.properties) :=
    List.filter_congr fun name _ => isSome_eq_of_rel (rel_get? h.properties name)
  have hrequired : (Schema.promote required n).required = (Schema.promote required m).required := by
    show (n.required ++ required.filter (Dict.has n.properties)).eraseDups =
      (m.required ++ required.filter (Dict.has m.properties)).eraseDups
    rw [hframe.required, hhas]
  exact SameFrame.sameShape ⟨hframe.1, hframe.2, hframe.3, hrequired, hframe.5, hframe.6⟩ h.items
    h.properties h.additional (hasSubject_promote h.left.self required)
    (hasSubject_promote h.right.self required)

theorem sameShape_orNull (h : n.SameShape m) :
    SameShape (Schema.orNull n) (Schema.orNull m) := by
  -- Without the documentation that moves to the union there is as much to document as before.
  have hbare : ∀ {k : Node}, k.HasSubject →
      HasSubject { k with docs := { default := k.docs.default } } := by
    intro k hk
    rcases hk with hdocs | hk
    · exact .inl (by rw [hdocs])
    · exact .inr hk
  have hsame : SameShape { n with docs := { default := n.docs.default } }
      { m with docs := { default := m.docs.default } } :=
    h.withDocs (hbare h.left.self) (hbare h.right.self)
  exact sameShape_dedupe (.cons hsame (.cons (sameShape_ofType .null) .nil)) _ _

/-- What is built in the same way of nodes of the same shape has the same shape, whatever
documentation is put in. -/
theorem congruence_sameShape : Node.Congruence SameShape fun _ _ => True where
  noDocs := trivial
  docs _ _ _ := trivial
  operator _ _ h := h.frame.operator
  items _ _ h := h.items
  properties _ _ h := h.properties
  ofType := sameShape_ofType
  ofReference _ :=
    SameFrame.sameShape ⟨rfl, rfl, rfl, rfl, rfl, rfl⟩ .nil .nil .none (.inl rfl) (.inl rfl)
  combined _ _ _ _ _ _ h hitems _ := sameShape_combined h hitems
  object _ _ _ _ _ hproperties hadditional :=
    SameFrame.sameShape ⟨rfl, rfl, rfl, rfl, rfl, rfl⟩ .nil hproperties hadditional (.inl rfl) (.inl rfl)
  typed n m _ _ _ _ h htype _ := by
    have hframe := h.frame
    have htype' : m.type.isSome = true := hframe.type ▸ htype
    exact SameFrame.sameShape ⟨hframe.1, hframe.2, hframe.3, hframe.4, rfl, rfl⟩ h.items h.properties
      h.additional (.inr (.inl htype)) (.inr (.inl htype'))
  promote _ _ required h := sameShape_promote h required
  dedupe _ _ _ docs docs' hitems _ := sameShape_dedupe hitems docs docs'
  orNull _ _ h := sameShape_orNull h

end ApiShape.Node
