import ApiShape.Model.Graph
import ApiShape.Proofs.Dict
import ApiShape.Proofs.Node.Nested

/-!
# What inlining replaces references by

From a reference, inlining follows references until it comes to a node that is no reference to a
component, or to a reference to a component that is being inlined already. That last node takes the
place of the reference, with the first documentation on the way, and the nodes inside it are inlined
in turn. This has no bound on steps, and the bounded expansion does just that.
-/

namespace ApiShape

/-- The documentation of the first one that has any, field by field. -/
def Docs.first (docs : List Docs) : Docs :=
  { description := docs.findSome? (·.description)
    title := docs.findSome? (·.title)
    deprecated := docs.findSome? (·.deprecated)
    default := docs.findSome? (·.default) }

theorem Docs.first_cons (d : Docs) (rest : List Docs) :
    first (d :: rest) = Node.mergeDocs d (first rest) := by
  have hfield : ∀ {α : Type} (field : Docs → Option α),
      (d :: rest).findSome? field = (field d <|> rest.findSome? field) := by
    intro α field
    rw [List.findSome?_cons]
    cases field d <;> rfl
  unfold first Node.mergeDocs inherit
  simp only [hfield]

theorem Docs.first_singleton (d : Docs) : first [d] = d := by
  rw [first_cons]
  obtain ⟨description, title, deprecated, default⟩ := d
  cases description <;> cases title <;> cases deprecated <;> cases default <;> rfl

namespace Node

variable {n m : Node} {f : Node → Node}

/-! ## Other nodes inside -/

/-- The node with the nodes right inside it replaced. -/
def mapChildren (f : Node → Node) (n : Node) : Node :=
  { n with
    items := n.items.map f
    properties := n.properties.map fun e => (e.1, f e.2)
    additional := n.additional.map f }

theorem children_mapChildren (f : Node → Node) (n : Node) :
    (n.mapChildren f).children = n.children.map f := by
  simp only [children, mapChildren, List.map_append, List.map_map, Option.toList_map]
  rfl

theorem mapChildren_congr {g : Node → Node} (h : ∀ c ∈ n.children, f c = g c) :
    n.mapChildren f = n.mapChildren g := by
  simp only [children, List.mem_append, List.mem_map, Option.mem_toList] at h
  unfold mapChildren
  congr 1
  · exact List.map_congr_left fun c hc => h c (.inl (.inl hc))
  · exact List.map_congr_left fun e he => by rw [h e.2 (.inl (.inr ⟨e, he, rfl⟩))]
  · exact Option.map_congr fun c hc => h c (.inr hc)

theorem mapChildren_id (n : Node) : n.mapChildren id = n := by
  have hproperties : n.properties.map (fun e => (e.1, id e.2)) = n.properties := List.map_id _
  unfold mapChildren
  rw [List.map_id, Option.map_id, hproperties]
  cases n
  rfl

theorem expandItems_eq (target? : String → Option Node) (items : List Node) :
    expandItems target? items = items.map (expandWith target?) := by
  induction items with
  | nil => rfl
  | cons n rest ih => rw [expandItems, List.map_cons, ih]

theorem expandProperties_eq (target? : String → Option Node) (properties : List (String × Node)) :
    expandProperties target? properties =
      properties.map fun e => (e.1, expandWith target? e.2) := by
  induction properties with
  | nil => rfl
  | cons e rest ih => rw [expandProperties, List.map_cons, ih]

theorem expandWith_of_reference_eq_none {target? : String → Option Node} (h : n.reference = none) :
    expandWith target? n = n.mapChildren (expandWith target?) := by
  obtain ⟨reference, type, items, operator, properties, required, additional⟩ := n
  cases h
  rw [expandWith, expandItems_eq, expandProperties_eq]
  cases additional <;> rfl

theorem expandWith_of_target {target? : String → Option Node} {target : Node}
    (h : n.componentName?.bind target? = some target) :
    expandWith target? n = { target with docs := mergeDocs n.docs target.docs } := by
  obtain ⟨reference, type, items, operator, properties, required, additional⟩ := n
  cases reference with
  | none => cases h
  | some r =>
    rw [expandWith]
    simp only [h]

theorem expandWith_of_no_target {target? : String → Option Node} (hr : n.reference.isSome = true)
    (h : n.componentName?.bind target? = none) : expandWith target? n = n := by
  obtain ⟨reference, type, items, operator, properties, required, additional⟩ := n
  cases reference with
  | none => cases hr
  | some r =>
    rw [expandWith]
    simp only [h]

/-! ## References that carry documentation only -/

/-- The references in a node carry nothing but documentation. -/
def BareReferences (n : Node) : Prop :=
  ∀ m ∈ n.nested, m.reference.isSome = true → m = { reference := m.reference, docs := m.docs }

theorem BareReferences.of_mem_children (h : n.BareReferences) (hm : m ∈ n.children) :
    m.BareReferences :=
  fun k hk => h k (mem_nested_iff.2 (.inr ⟨m, hm, hk⟩))

theorem BareReferences.eq (h : n.BareReferences) (hr : n.reference.isSome = true) :
    n = { reference := n.reference, docs := n.docs } :=
  h n (mem_nested_iff.2 (.inl rfl)) hr

theorem BareReferences.children_eq_nil (h : n.BareReferences) (hr : n.reference.isSome = true) :
    n.children = [] := by
  rw [h.eq hr]
  rfl

theorem isSome_reference_of_componentName? {name : String} (h : n.componentName? = some name) :
    n.reference.isSome = true := by
  unfold componentName? at h
  cases hr : n.reference with
  | none =>
    rw [hr] at h
    cases h
  | some _ => rfl

end Node

namespace Graph

variable {g : Graph} {path around : List String} {n m last : Node} {refs : List Node}
  {name : String} {target : Node}

/-- The references in the schemas carry nothing but documentation. -/
def BareReferences (g : Graph) : Prop :=
  ∀ name n, g.schemas.get? name = some n → n.BareReferences

/-! ## Following references -/

/-- A node refers to a schema that is not on the path. -/
structure Follows (g : Graph) (path : List String) (n : Node) (name : String) (target : Node) :
    Prop where
  componentName : n.componentName? = some name
  new : name ∉ path
  schema : g.schemas.get? name = some target

theorem Follows.unique {name' : String} {target' : Node} (h : g.Follows path n name target)
    (h' : g.Follows path n name' target') : name = name' ∧ target = target' := by
  have hname : name = name' := Option.some.inj (h.componentName.symm.trans h'.componentName)
  subst hname
  exact ⟨rfl, Option.some.inj (h.schema.symm.trans h'.schema)⟩

/-- Following references from a node, met with a path around it, as long as they lead to schemas
that are not on the path: through some references to the last node, with the names of the schemas
joining the path. -/
inductive Trail (g : Graph) : (path : List String) → (n : Node) → (refs : List Node) →
    (around : List String) → (last : Node) → Prop
  | stop {path : List String} {n : Node} (h : ∀ name target, ¬ g.Follows path n name target) :
      Trail g path n [] path n
  | follow {path : List String} {n : Node} {name : String} {target : Node} {refs : List Node}
      {around : List String} {last : Node} (h : g.Follows path n name target)
      (ht : Trail g (name :: path) target refs around last) :
      Trail g path n (n :: refs) around last

theorem Trail.unique {refs' : List Node} {around' : List String} {last' : Node}
    (h : g.Trail path n refs around last) (h' : g.Trail path n refs' around' last') :
    refs = refs' ∧ around = around' ∧ last = last' := by
  induction h generalizing refs' with
  | stop h =>
    cases h' with
    | stop => exact ⟨rfl, rfl, rfl⟩
    | follow hf => exact absurd hf (h _ _)
  | follow h _ ih =>
    cases h' with
    | stop hf => exact absurd h (hf _ _)
    | follow hf ht =>
      obtain ⟨rfl, rfl⟩ := h.unique hf
      obtain ⟨rfl, rfl, rfl⟩ := ih ht
      exact ⟨rfl, rfl, rfl⟩

theorem Trail.not_follows (h : g.Trail path n refs around last) :
    ∀ name target, ¬ g.Follows around last name target := by
  induction h with
  | stop h => exact h
  | follow _ _ ih => exact ih

/-- What passes from a reference to the schema that it leads to holds at the end of a trail. -/
theorem Trail.last_induction {P : List String → Node → Prop}
    (h : g.Trail path n refs around last) (hn : P path n)
    (hstep : ∀ path n name target, P path n → g.Follows path n name target →
      P (name :: path) target) : P around last := by
  induction h with
  | stop => exact hn
  | follow h _ ih => exact ih (hstep _ _ _ _ hn h)

/-! ## Inlining -/

/-- A node, met with a path around it, becomes the last node of its trail, with the first
documentation on the trail and the nodes inside it inlined in turn. -/
inductive Inlines (g : Graph) : (path : List String) → (n m : Node) → Prop
  | intro {path : List String} {n : Node} {refs : List Node} {around : List String} {last : Node}
      (f : Node → Node) (htrail : g.Trail path n refs around last)
      (hchildren : ∀ c ∈ last.children, Inlines g around c (f c)) :
      Inlines g path n
        { last.mapChildren f with docs := .first (refs.map (·.docs) ++ [last.docs]) }

/-- A node becomes one node only. -/
theorem Inlines.unique {m' : Node} (h : g.Inlines path n m) (h' : g.Inlines path n m') : m = m' := by
  induction h generalizing m' with
  | intro f htrail _ ih =>
    cases h' with
    | intro f' htrail' hchildren' =>
      obtain ⟨rfl, rfl, rfl⟩ := htrail.unique htrail'
      rw [Node.mapChildren_congr fun c hc => ih c hc (hchildren' c hc)]

/-- Where no reference is followed, a node becomes itself with the nodes inside it inlined. -/
theorem inlines_of_not_follows {f : Node → Node} (h : ∀ name target, ¬ g.Follows path n name target)
    (hchildren : ∀ c ∈ n.children, g.Inlines path c (f c)) :
    g.Inlines path n (n.mapChildren f) := by
  have hm := Inlines.intro f (.stop h) hchildren
  rw [List.map_nil, List.nil_append, Docs.first_singleton] at hm
  exact hm

/-- A reference that is followed becomes what its target becomes, with documentation merged. -/
theorem inlines_of_follows (h : g.Follows path n name target)
    (hm : g.Inlines (name :: path) target m) :
    g.Inlines path n { m with docs := Node.mergeDocs n.docs m.docs } := by
  cases hm with
  | intro f htrail hchildren =>
    have hm := Inlines.intro f (.follow h htrail) hchildren
    rw [List.map_cons, List.cons_append, Docs.first_cons] at hm
    exact hm

/-! ## The bound on steps -/

/-- The names of the schemas that are not on a path. -/
def remaining (g : Graph) (path : List String) : List String :=
  g.schemas.keys.filter (· ∉ path)

/-- Following a reference uses up a name. -/
theorem Follows.length_remaining_lt (h : g.Follows path n name target) :
    (g.remaining (name :: path)).length < (g.remaining path).length := by
  have hname : name ∈ g.remaining path := by
    refine List.mem_filter.2 ⟨Dict.mem_keys_of_has ?_, decide_eq_true h.new⟩
    unfold Dict.has
    rw [h.schema]
    rfl
  have hfilter : g.remaining (name :: path) = (g.remaining path).filter (· ≠ name) := by
    unfold remaining
    rw [List.filter_filter]
    refine List.filter_congr fun k _ => ?_
    rw [Bool.eq_iff_iff]
    simp only [List.mem_cons, not_or, decide_eq_true_eq, Bool.and_eq_true, decide_not,
      Bool.not_eq_true', decide_eq_false_iff_not, ne_eq]
  rw [hfilter, List.length_filter_lt_length_iff_exists]
  exact ⟨name, hname, by simp only [ne_eq, not_true, decide_false, Bool.false_eq_true,
    not_false_iff]⟩

/-- The target that the expansion has for a node: what the schema that it refers to becomes, unless
that is on the path. -/
theorem bind_target_eq_some (h : g.Follows path n name target) (steps : Nat) :
    (n.componentName?.bind fun name =>
      if path.contains name then none
      else (g.schemas.get? name).map (g.expand steps (name :: path))) =
      some (g.expand steps (name :: path) target) := by
  have hnew : ¬ path.contains name = true := by
    rw [List.contains_iff_mem]
    exact h.new
  rw [h.componentName, Option.bind_some, if_neg hnew, h.schema]
  rfl

theorem bind_target_eq_none (h : ∀ name target, ¬ g.Follows path n name target) (steps : Nat) :
    (n.componentName?.bind fun name =>
      if path.contains name then none
      else (g.schemas.get? name).map (g.expand steps (name :: path))) = none := by
  cases hname : n.componentName? with
  | none => rfl
  | some name =>
    rw [Option.bind_some]
    split
    · rfl
    · rename_i hnew
      rw [List.contains_iff_mem] at hnew
      cases htarget : g.schemas.get? name with
      | none => rfl
      | some target => exact absurd ⟨hname, hnew, htarget⟩ (h name target)

theorem expand_of_follows (h : g.Follows path n name target) (steps : Nat) :
    g.expand (steps + 1) path n =
      { g.expand steps (name :: path) target with
        docs := Node.mergeDocs n.docs (g.expand steps (name :: path) target).docs } := by
  rw [expand, Node.expandWith_of_target (bind_target_eq_some h steps)]

/-- Of a node that is not followed only the nodes inside it are expanded. There are none in a
reference. -/
theorem expand_of_not_follows (h : ∀ name target, ¬ g.Follows path n name target)
    (hn : n.BareReferences) (steps : Nat) :
    g.expand steps path n = n.mapChildren (g.expand steps path) := by
  cases steps with
  | zero => exact (Node.mapChildren_id n).symm
  | succ steps =>
    cases hr : n.reference with
    | none =>
      rw [expand]
      exact Node.expandWith_of_reference_eq_none hr
    | some r =>
      have hr : n.reference.isSome = true := by rw [hr]; rfl
      have hself : n.mapChildren (g.expand (steps + 1) path) = n.mapChildren id := by
        refine Node.mapChildren_congr fun c hc => ?_
        rw [hn.children_eq_nil hr] at hc
        cases hc
      rw [hself, Node.mapChildren_id, expand]
      exact Node.expandWith_of_no_target hr (bind_target_eq_none h steps)

/-- An expansion with as many steps as there are names left inlines a node. -/
theorem inlines_expand (hg : g.BareReferences) (steps : Nat) (path : List String) (n : Node)
    (hn : n.BareReferences) (hsteps : (g.remaining path).length ≤ steps) :
    g.Inlines path n (g.expand steps path n) := by
  by_cases hf : ∃ name target, g.Follows path n name target
  · obtain ⟨name, target, hf⟩ := hf
    have hlt := hf.length_remaining_lt
    cases steps with
    | zero => omega
    | succ steps =>
      rw [expand_of_follows hf]
      exact inlines_of_follows hf
        (inlines_expand hg steps _ target (hg name target hf.schema) (by omega))
  · simp only [not_exists] at hf
    rw [expand_of_not_follows hf hn]
    refine inlines_of_not_follows hf fun c hc => ?_
    have := Node.sizeOf_lt_of_mem_children hc
    exact inlines_expand hg steps path c (hn.of_mem_children hc) hsteps
termination_by (steps, sizeOf n)

/-! ## The places of a result -/

/-- In the result of inlining a node, met with a path around it, another node stands where some
references have led to the last node of a trail, and where some names are being inlined around. -/
inductive Stands (g : Graph) : (path : List String) → (n : Node) → (refs : List Node) →
    (around : List String) → (last x : Node) → Prop
  | here {path : List String} {n m : Node} {refs : List Node} {around : List String} {last : Node}
      (htrail : g.Trail path n refs around last) (h : g.Inlines path n m) :
      Stands g path n refs around last m
  | inside {path : List String} {n : Node} {refs' : List Node} {path' : List String}
      {last' c : Node} {refs : List Node} {around : List String} {last x : Node}
      (htrail : g.Trail path n refs' path' last') (hc : c ∈ last'.children)
      (h : Stands g path' c refs around last x) : Stands g path n refs around last x

/-- A node of a result is the last one of the trail that leads to its place, with other nodes inside
and the first documentation on the trail. -/
theorem Stands.eq_last {x : Node} (h : g.Stands path n refs around last x) :
    ∃ f, x = { last.mapChildren f with docs := .first (refs.map (·.docs) ++ [last.docs]) } := by
  induction h with
  | here htrail h =>
    cases h with
    | intro f htrail' _ =>
      obtain ⟨rfl, rfl, rfl⟩ := htrail.unique htrail'
      exact ⟨f, rfl⟩
  | inside _ _ _ ih => exact ih

/-- Every node of a result stands at a place, and nothing else does. -/
theorem Inlines.mem_nested_iff (h : g.Inlines path n m) {x : Node} :
    x ∈ m.nested ↔ ∃ refs around last, g.Stands path n refs around last x := by
  constructor
  · intro hx
    induction h with
    | intro f htrail hchildren ih =>
      rcases Node.mem_nested_iff.1 hx with rfl | ⟨k, hk, hx⟩
      · exact ⟨_, _, _, .here htrail (.intro f htrail hchildren)⟩
      · change k ∈ (Node.mapChildren f _).children at hk
        rw [Node.children_mapChildren] at hk
        obtain ⟨c, hc, rfl⟩ := List.mem_map.1 hk
        obtain ⟨refs, around, last, hs⟩ := ih c hc hx
        exact ⟨refs, around, last, .inside htrail hc hs⟩
  · rintro ⟨refs, around, last, hs⟩
    induction hs generalizing m with
    | here _ h' =>
      rw [h'.unique h]
      exact Node.mem_nested_iff.2 (.inl rfl)
    | inside htrail' hc _ ih =>
      cases h with
      | intro f htrail hchildren =>
        obtain ⟨rfl, rfl, rfl⟩ := htrail'.unique htrail
        refine Node.mem_nested_iff.2 (.inr ⟨_, ?_, ih (hchildren _ hc)⟩)
        change f _ ∈ (Node.mapChildren f _).children
        rw [Node.children_mapChildren]
        exact List.mem_map.2 ⟨_, hc, rfl⟩

/-! ## Inlining ends -/

/-- Inlining a schema ends, and gives what the schema becomes. -/
theorem exists_inline (hg : g.BareReferences) (hn : g.schemas.get? name = some n) :
    ∃ m, g.inline name = some m ∧ g.Inlines [name] n m := by
  refine ⟨g.expand g.schemas.length [name] n, ?_, ?_⟩
  · unfold inline
    rw [hn]
    rfl
  · refine inlines_expand hg _ _ n (hg name n hn) ?_
    have hkeys : g.schemas.keys.length = g.schemas.length := List.length_map _
    exact hkeys ▸ List.length_filter_le _ _

end Graph

end ApiShape
