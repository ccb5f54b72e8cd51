import ApiShape.Proofs.Graph.Dependencies
import ApiShape.Proofs.Graph.Meaning

/-!
# References that inlining leaves

Inlining leaves a reference to a schema only inside that schema. So it leaves none if and only if it
comes to no schema that depends on itself: a reference that is left closes a cycle of dependencies,
and a cycle cannot be opened without end, as the names on the path are all different.
-/

namespace ApiShape.Graph

variable {g : Graph} {path around : List String} {n m last x : Node} {refs : List Node}
  {root a b name : String} {target : Node}

/-! ## What a reference that is left refers to -/

theorem Stands.componentName? (h : g.Stands path n refs around last x) :
    x.componentName? = last.componentName? := by
  obtain ⟨f, rfl⟩ := h.eq_last
  rfl

theorem Stands.not_follows (h : g.Stands path n refs around last x) :
    ∀ name target, ¬ g.Follows around last name target := by
  induction h with
  | here htrail => exact htrail.not_follows
  | inside _ _ _ ih => exact ih

/-- A reference to a schema is left only where the schema is being inlined around it. -/
theorem Stands.mem_around (h : g.Stands path n refs around last x)
    (hname : x.componentName? = some name) (hhas : g.schemas.has name = true) : name ∈ around := by
  obtain ⟨target, htarget⟩ := Option.isSome_iff_exists.1 hhas
  by_cases hnew : name ∈ around
  · exact hnew
  · rw [h.componentName?] at hname
    exact absurd ⟨hname, hnew, htarget⟩ (h.not_follows name target)

/-! ## Where no cycle is reached -/

/-- A node is in a schema that the root leads to, and that the schemas on the path lead to. -/
def Enclosed (g : Graph) (root : String) (path : List String) (n : Node) : Prop :=
  ∃ a schema, g.schemas.get? a = some schema ∧ n ∈ schema.nested ∧
    Relation.ReflTransGen g.DependsOn root a ∧
    ∀ b ∈ path, Relation.ReflTransGen g.DependsOn root b ∧ Relation.ReflTransGen g.DependsOn b a

theorem enclosed_root (hn : g.schemas.get? root = some n) : g.Enclosed root [root] n := by
  refine ⟨root, n, hn, Node.mem_nested_iff.2 (.inl rfl), .refl, fun b hb => ?_⟩
  rw [List.mem_singleton.1 hb]
  exact ⟨.refl, .refl⟩

theorem Enclosed.child {c : Node} (h : g.Enclosed root path n) (hc : c ∈ n.children) :
    g.Enclosed root path c := by
  obtain ⟨a, schema, ha, hn, hpath⟩ := h
  exact ⟨a, schema, ha, Node.mem_nested_of_mem_children hn hc, hpath⟩

/-- What a node refers to is a dependency of the schema around it. -/
theorem Enclosed.dependsOn (h : g.Enclosed root path n) (hname : n.componentName? = some name)
    (hhas : g.schemas.has name = true) :
    ∃ a, g.DependsOn a name ∧ Relation.ReflTransGen g.DependsOn root a ∧
      ∀ b ∈ path, Relation.ReflTransGen g.DependsOn root b ∧
        Relation.ReflTransGen g.DependsOn b a := by
  obtain ⟨a, schema, ha, hn, hroot, hpath⟩ := h
  exact ⟨a, dependsOn_iff.2 ⟨schema, ha, hhas, n, hn, hname⟩, hroot, hpath⟩

theorem Enclosed.follow (h : g.Enclosed root path n) (hf : g.Follows path n name target) :
    g.Enclosed root (name :: path) target := by
  have hhas : g.schemas.has name = true := by
    unfold Dict.has
    rw [hf.schema]
    rfl
  obtain ⟨a, ha, hroot, hpath⟩ := h.dependsOn hf.componentName hhas
  have hnew : Relation.ReflTransGen g.DependsOn root name := hroot.tail ha
  refine ⟨name, target, hf.schema, Node.mem_nested_iff.2 (.inl rfl), hnew, fun b hb => ?_⟩
  rcases List.mem_cons.1 hb with rfl | hb
  · exact ⟨hnew, .refl⟩
  · exact ⟨(hpath b hb).1, (hpath b hb).2.tail ha⟩

theorem Stands.enclosed (h : g.Stands path n refs around last x) (hn : g.Enclosed root path n) :
    g.Enclosed root around last := by
  induction h with
  | here htrail =>
    exact htrail.last_induction (P := g.Enclosed root) hn fun _ _ _ _ h hf => h.follow hf
  | inside htrail hc _ ih =>
    exact ih ((htrail.last_induction (P := g.Enclosed root) hn
      fun _ _ _ _ h hf => h.follow hf).child hc)

/-- A reference that is left refers to a recursive schema that the root leads to. -/
theorem Stands.isRecursive (h : g.Stands path n refs around last x) (hn : g.Enclosed root path n)
    (hname : x.componentName? = some name) (hhas : g.schemas.has name = true) :
    g.isRecursive name = true ∧ Relation.ReflTransGen g.DependsOn root name := by
  have haround := h.mem_around hname hhas
  rw [h.componentName?] at hname
  obtain ⟨a, ha, -, hpath⟩ := (h.enclosed hn).dependsOn hname hhas
  obtain ⟨hroot, hcycle⟩ := hpath name haround
  exact ⟨isRecursive_iff.2 (.tail' hcycle ha), hroot⟩

/-! ## Where no reference is left -/

/-- No node at any depth refers to a schema. -/
def ReferenceFree (g : Graph) (n : Node) : Prop :=
  ∀ x ∈ n.nested, ∀ name, x.componentName? = some name → g.schemas.has name = false

theorem ReferenceFree.child {c : Node} (h : g.ReferenceFree n) (hc : c ∈ n.children) :
    g.ReferenceFree c :=
  fun x hx => h x (Node.mem_nested_iff.2 (.inr ⟨c, hc, hx⟩))

theorem ReferenceFree.withDocs {docs : Docs} (h : g.ReferenceFree { n with docs }) (docs' : Docs) :
    g.ReferenceFree { n with docs := docs' } := by
  intro x hx name hname
  rcases Node.mem_nested_iff.1 hx with rfl | ⟨c, hc, hx⟩
  · exact h _ (Node.mem_nested_iff.2 (.inl rfl)) name hname
  · exact h x (Node.mem_nested_iff.2 (.inr ⟨c, hc, hx⟩)) name hname

/-- What a schema becomes where all the names on the path are being inlined around it, with no
reference left. -/
def Opened (g : Graph) (path : List String) (a : String) : Prop :=
  a ∈ path ∧ ∃ schema m, g.schemas.get? a = some schema ∧ g.Inlines path schema m ∧
    g.ReferenceFree m

/-- Where no reference is left, each one inside has been followed to a schema that was not on the
path. -/
theorem Inlines.opened {n m y : Node} (hn : n.BareReferences) (h : g.Inlines path n m)
    (hm : g.ReferenceFree m) (hy : y ∈ n.nested) (hname : y.componentName? = some name)
    (hhas : g.schemas.has name = true) : name ∉ path ∧ g.Opened (name :: path) name := by
  cases h with
  | @intro _ _ _ _ last f htrail hchildren =>
    rcases Node.mem_nested_iff.1 hy with rfl | ⟨k, hk, hy⟩
    · cases htrail with
      | stop =>
        -- The reference itself would be left.
        have hself := hm _ (Node.mem_nested_iff.2 (.inl rfl)) name hname
        rw [hhas] at hself
        cases hself
      | follow hf htrail =>
        cases hname.symm.trans hf.componentName
        exact ⟨hf.new, List.mem_cons_self, _, _, hf.schema, .intro f htrail hchildren,
          ReferenceFree.withDocs (n := Node.mapChildren f last) hm _⟩
    · cases htrail with
      | stop =>
        have := Node.sizeOf_lt_of_mem_children hk
        have hk' : f k ∈ (Node.mapChildren f n).children := by
          rw [Node.children_mapChildren]
          exact List.mem_map_of_mem hk
        exact (hchildren k hk).opened (hn.of_mem_children hk)
          (hm.child hk') hy hname hhas
      | follow hf =>
        -- A reference has nothing inside.
        rw [hn.children_eq_nil (Node.isSome_reference_of_componentName? hf.componentName)] at hk
        cases hk
termination_by sizeOf n

/-- Inlining goes on from an opened schema to all it depends on. -/
theorem Opened.step (hg : g.BareReferences) (h : g.Opened path a) (hab : g.DependsOn a b) :
    b ∉ path ∧ g.Opened (b :: path) b := by
  obtain ⟨-, schema, m, hschema, hm, hfree⟩ := h
  obtain ⟨schema', hschema', hb, y, hy, hname⟩ := dependsOn_iff.1 hab
  cases hschema.symm.trans hschema'
  exact hm.opened (hg a schema hschema) hfree hy hname hb

/-- Along dependencies the path grows, and comes to no name that it has. -/
theorem Opened.trans (hg : g.BareReferences) (h : g.Opened path a)
    (hab : Relation.TransGen g.DependsOn a b) :
    b ∉ path ∧ ∃ longer, path ⊆ longer ∧ g.Opened longer b := by
  induction hab with
  | single hab =>
    obtain ⟨hnew, hb⟩ := h.step hg hab
    exact ⟨hnew, _, List.subset_cons_self _ _, hb⟩
  | tail _ hbc ih =>
    obtain ⟨-, longer, hpath, hb⟩ := ih
    obtain ⟨hnew, hc⟩ := hb.step hg hbc
    exact ⟨fun hmem => hnew (hpath hmem), _, List.subset_cons_of_subset _ hpath, hc⟩

theorem Opened.not_isRecursive (hg : g.BareReferences) (h : g.Opened path a) :
    ¬ g.isRecursive a = true :=
  fun hrec => (h.trans hg (isRecursive_iff.1 hrec)).1 h.1

theorem Opened.reach (hg : g.BareReferences) (h : g.Opened path a)
    (hab : Relation.ReflTransGen g.DependsOn a b) : ∃ longer, g.Opened longer b := by
  rcases Relation.reflTransGen_iff_eq_or_transGen.1 hab with rfl | hab
  · exact ⟨path, h⟩
  · obtain ⟨-, longer, -, hb⟩ := h.trans hg hab
    exact ⟨longer, hb⟩

/-! ## Inlining a schema -/

/-- Inlining a schema ends. It leaves a reference to a schema only inside that schema, and it leaves
none if and only if no recursive schema is reached. -/
theorem inline_reference_iff (hg : g.BareReferences) (hn : g.schemas.get? name = some n) :
    ∃ m, g.inline name = some m ∧ g.Inlines [name] n m ∧
      (∀ x ∈ m.nested, ∃ refs around last, g.Stands [name] n refs around last x) ∧
      (∀ refs around last x a, g.Stands [name] n refs around last x →
        x.componentName? = some a → g.schemas.has a = true → a ∈ around) ∧
      ((∀ x ∈ m.nested, ∀ a, x.componentName? = some a → g.schemas.has a = false) ↔
        ∀ a, g.isRecursive a = true → ¬ Relation.ReflTransGen g.DependsOn name a) := by
  obtain ⟨m, hm, h⟩ := exists_inline hg hn
  refine ⟨m, hm, h, fun x hx => h.mem_nested_iff.1 hx, ?_, ?_, ?_⟩
  · exact fun refs around last x a hx => hx.mem_around
  · intro hfree a hrec ha
    have hopened : g.Opened [name] name := ⟨List.mem_singleton_self _, n, m, hn, h, hfree⟩
    obtain ⟨longer, ha⟩ := hopened.reach hg ha
    exact ha.not_isRecursive hg hrec
  · intro hcycles x hx a ha
    obtain ⟨refs, around, last, hx⟩ := h.mem_nested_iff.1 hx
    by_cases hhas : g.schemas.has a = true
    · obtain ⟨hrec, hreach⟩ := hx.isRecursive (enclosed_root hn) ha hhas
      exact absurd hreach (hcycles a hrec)
    · exact Bool.eq_false_iff.2 hhas

/-- The grove leads to the tree, which consists of trees, so a reference to the tree is left. -/
theorem inline_reference_iff_groves :
    groves.BareReferences ∧ groves.schemas.get? "Grove" = some grove ∧
      ∃ m, groves.inline "Grove" = some m ∧
        (∀ refs around last x a, groves.Stands ["Grove"] grove refs around last x →
          x.componentName? = some a → groves.schemas.has a = true → a ∈ around) ∧
        ∃ x ∈ m.nested, ∃ a, x.componentName? = some a ∧ groves.schemas.has a = true := by
  have hget : groves.schemas.get? "Grove" = some grove := by cbv
  obtain ⟨m, hm, -, -, haround, hiff⟩ := inline_reference_iff groves_bareReferences hget
  have hrec : groves.isRecursive "Tree" = true := by cbv
  have hdependencies : groves.dependencies "Grove" = ["Tree"] := by cbv
  have hreach : Relation.ReflTransGen groves.DependsOn "Grove" "Tree" := by
    refine .single ?_
    unfold DependsOn
    rw [hdependencies]
    exact List.mem_singleton_self _
  have hleft := mt hiff.1 fun hcycles => hcycles "Tree" hrec hreach
  simp only [Classical.not_forall, Bool.not_eq_false, exists_prop] at hleft
  exact ⟨groves_bareReferences, hget, m, hm, haround, hleft⟩

end ApiShape.Graph
