import ApiShape.Normalize.Schema
import ApiShape.Proofs.Report

/-!
# One layer of normalization

What the node of a schema is made of, given the nodes that the normalizer gives for the schemas
right inside it. Each statement takes the success of one step apart into the successes of its parts,
so that nothing else needs to look into the steps.
-/

namespace ApiShape

namespace Schema

variable {d : Document} {normalize : Normalizer} {s : Schema} {location : String} {n : Node}

/-! ## Forms -/

/-- An enum is all that comes before an intersection. -/
theorem form_eq_allOf_iff {branches : List (RefOr Schema)} :
    s.form = .allOf branches ↔ s.enum = none ∧ s.allOf = some branches := by
  unfold form
  cases s.enum with
  | some values => simp only [reduceCtorEq, false_and]
  | none =>
    cases s.allOf with
    | some branches' => simp only [Form.allOf.injEq, Option.some.injEq, true_and]
    | none =>
      simp only [reduceCtorEq, and_false, iff_false]
      cases s.anyOf with
      | some _ => exact nofun
      | none =>
        cases s.oneOf with
        | some _ => exact nofun
        | none =>
          dsimp only
          split <;> exact nofun

theorem form_ne_enum (h : s.enum = none) (values : List Json) : s.form ≠ .enum values := by
  unfold form
  rw [h]
  cases s.allOf with
  | some _ => exact nofun
  | none =>
    cases s.anyOf with
    | some _ => exact nofun
    | none =>
      cases s.oneOf with
      | some _ => exact nofun
      | none =>
        dsimp only
        split <;> exact nofun

/-! ## Objects and lists -/

theorem propertyNodes_eq_ok {properties : Dict Node} :
    (s.propertyNodes normalize location).result = .ok properties ↔
      List.Forall₂ (fun e e' => e'.1 = e.1 ∧
          (normalize e.2 (locate location ["properties", e.1])).result = .ok e'.2)
        (s.properties.getD []) properties := by
  rw [propertyNodes, Report.traverse_eq_ok]
  -- One property: its name stays, its node is what the normalizer gives.
  have hstep : ∀ (e : String × RefOr Schema) (e' : String × Node),
      ((do return (e.1, ← normalize e.2 (locate location ["properties", e.1])) :
          Report NormalizeError (String × Node))).result = .ok e' ↔
        e'.1 = e.1 ∧ (normalize e.2 (locate location ["properties", e.1])).result = .ok e'.2 := by
    intro e e'
    simp only [Report.bind_eq_ok, Report.pure_eq_ok]
    constructor
    · rintro ⟨m, hm, rfl⟩
      exact ⟨rfl, hm⟩
    · rintro ⟨hname, hm⟩
      exact ⟨e'.2, hm, Prod.ext hname.symm rfl⟩
  constructor
  · exact fun h => h.imp fun e e' he => (hstep e e').1 he
  · exact fun h => h.imp fun e e' he => (hstep e e').2 he

theorem propertyNodes_eq_nil_iff {properties : Dict Node}
    (h : (s.propertyNodes normalize location).result = .ok properties) :
    properties = [] ↔ s.properties.getD [] = [] := by
  rw [propertyNodes_eq_ok] at h
  rw [← List.length_eq_zero_iff, ← List.length_eq_zero_iff, h.length_eq]

/-- What an object node says about other properties is a plain type, or what the normalizer gives. -/
theorem additionalNode_eq_ok {properties : Dict Node} {additional : Option Node}
    (h : (s.additionalNode normalize location properties).result = .ok additional) :
    ∀ m ∈ additional, m = .ofType .unknown ∨ m = .ofType .never ∨
      ∃ place, s.additional = some (.schema place) ∧
        (normalize place (locate location ["additionalProperties"])).result = .ok m := by
  unfold additionalNode at h
  intro m hm
  split at h
  · rw [Report.pure_eq_ok] at h
    subst h
    split at hm
    · exact .inl (Option.some.inj hm).symm
    · cases hm
  · rw [Report.pure_eq_ok] at h
    subst h
    exact .inl (Option.some.inj hm).symm
  · rw [Report.pure_eq_ok] at h
    subst h
    exact .inr (.inl (Option.some.inj hm).symm)
  · -- Only here the normalizer is asked.
    rename_i place hplace
    simp only [Report.bind_eq_ok, Report.pure_eq_ok] at h
    obtain ⟨m', hm', rfl⟩ := h
    cases hm
    exact .inr (.inr ⟨place, hplace, hm'⟩)

theorem objectNode_eq_ok {properties : Dict Node} :
    (s.objectNode normalize location properties).result = .ok n ↔
      ∃ additional, (s.additionalNode normalize location properties).result = .ok additional ∧
        { type := some .object
          properties
          required := (s.required.filter properties.has).eraseDups
          additional : Node } = n := by
  unfold objectNode
  simp only [Report.bind_eq_ok, Report.pure_eq_ok]

/-- The node of a list with the item given: a tuple if its length is fixed, otherwise an array. -/
def listOf (s : Schema) (item : Option Node) : Node :=
  match s.tupleLength? with
  | some k => { type := some .tuple, items := List.replicate k (item.getD (.ofType .unknown)) }
  | none => { type := some .array, items := item.toList }

/-- The node of the items of a list, if the schema describes them. -/
def itemNode (normalize : Normalizer) (s : Schema) (location : String) :
    Report NormalizeError (Option Node) :=
  match s.items with
  | some place => some <$> normalize place (locate location ["items"])
  | none => pure none

/-- Whatever the item is, the list is made of it in the same way. -/
theorem arrayNode_eq :
    s.arrayNode normalize location = s.listOf <$> s.itemNode normalize location := by
  have hlist : ∀ item : Option Node,
      ((match s.tupleLength? with
        | some k =>
          return { type := some .tuple
                   items := List.replicate k (item.getD (.ofType .unknown)) }
        | none => return { type := some .array, items := item.toList } :
          Report NormalizeError Node)) = pure (s.listOf item) := by
    intro item
    unfold listOf
    cases s.tupleLength? <;> rfl
  unfold arrayNode itemNode
  cases s.items <;> exact congrArg (Report.bind _) (funext hlist)

theorem arrayNode_eq_ok :
    (s.arrayNode normalize location).result = .ok n ↔
      (s.items = none ∧ s.listOf none = n) ∨
        ∃ place m, s.items = some place ∧
          (normalize place (locate location ["items"])).result = .ok m ∧
          s.listOf (some m) = n := by
  rw [arrayNode_eq, Report.map_eq_ok]
  unfold itemNode
  cases hitems : s.items with
  | none =>
    simp only [Report.pure_eq_ok, exists_eq_left', reduceCtorEq, false_and, exists_false, or_false,
      true_and]
  | some place =>
    simp only [Report.map_eq_ok, reduceCtorEq, false_and, false_or, Option.some.injEq]
    constructor
    · rintro ⟨_, ⟨m, hm, rfl⟩, h⟩
      exact ⟨place, m, rfl, hm, h⟩
    · rintro ⟨_, m, rfl, hm, h⟩
      exact ⟨some m, ⟨m, hm, rfl⟩, h⟩

/-! ## Types -/

theorem bareNode_object_eq_ok :
    (s.bareNode normalize location .object).result = .ok n ↔
      ∃ properties, (s.propertyNodes normalize location).result = .ok properties ∧
        (s.objectNode normalize location properties).result = .ok n :=
  Report.bind_eq_ok

theorem typeNode_eq_ok {type : SchemaType} :
    (s.typeNode normalize location type).result = .ok n ↔
      ∃ m, (s.bareNode normalize location type).result = .ok m ∧
        { m with constraints := s.constraints, const := s.const } = n := by
  unfold typeNode
  simp only [Report.bind_eq_ok, Report.pure_eq_ok]

/-- The node of a schema with types, given a node for each type. -/
def typedOf (s : Schema) (nodes : List Node) : Node :=
  match nodes, s.isNullable with
  | [], _ => { type := some .null, const := s.const, docs := s.docs }
  | [n], false => { n with docs := s.docs }
  | nodes, nullable =>
    let null := if nullable then [Node.ofType .null] else []
    Node.dedupe { Node.composition .or (nodes ++ null) with docs := s.docs }

/-- Types are joined in the same way whatever their nodes are. -/
theorem typed_eq :
    s.typed normalize location =
      s.typedOf <$> Report.traverse (s.typeNode normalize location) s.effectiveTypes := by
  refine congrArg (Report.bind _) (funext fun nodes => ?_)
  show _ = pure (s.typedOf nodes)
  unfold typedOf
  cases s.isNullable <;> match nodes with
  | [] | [_] | _ :: _ :: _ => rfl

theorem typed_eq_ok :
    (s.typed normalize location).result = .ok n ↔
      ∃ nodes, List.Forall₂ (fun type m => (s.typeNode normalize location type).result = .ok m)
          s.effectiveTypes nodes ∧
        s.typedOf nodes = n := by
  rw [typed_eq]
  simp only [Report.map_eq_ok, Report.traverse_eq_ok]

/-! ## Intersections -/

/-- The node of an intersection, given all its items, before null is let in. -/
def intersectionOf (s : Schema) (items : List Node) : Node :=
  Node.dedupe { Node.composition .and items with docs := s.docs }

/-- The tags of components are tag objects. -/
theorem tagOf?_eq_ok {name : String} {r : Ref} {tag : Option Node}
    (h : (tagOf? d name r).result = .ok tag) :
    ∀ t ∈ tag, ∃ property value required, t = Node.tagged property value required := by
  unfold tagOf? at h
  simp only [Report.bind_eq_ok, Report.pure_eq_ok] at h
  obtain ⟨parent, _, rfl⟩ := h
  intro t ht
  obtain ⟨discriminator, _, rfl⟩ := Option.map_eq_some_iff.1 ht
  exact ⟨_, _, _, rfl⟩

theorem allOfBranch_inline_eq_ok {component : Option String} {t : Schema} {i : Nat}
    {items : List Node} :
    (s.allOfBranch d normalize component location (.inline t, i)).result = .ok items ↔
      ∃ m, (normalize (.inline t) (locate location ["allOf", toString i])).result = .ok m ∧
        [promote s.required m] = items := by
  unfold allOfBranch
  simp only [Report.bind_eq_ok, Report.pure_eq_ok]

theorem allOfBranch_ref_eq_ok {component : Option String} {r : Ref} {i : Nat}
    {items : List Node}
    (h : (s.allOfBranch d normalize component location (.ref r, i)).result = .ok items) :
    ∃ m tag, (normalize (.ref r) (locate location ["allOf", toString i])).result = .ok m ∧
      (∀ t ∈ tag, ∃ property value required, t = Node.tagged property value required) ∧
      items = m :: Option.toList tag := by
  unfold allOfBranch at h
  -- Only a named component asks the target for its tag.
  cases component with
  | none =>
    simp only [Report.bind_eq_ok, Report.pure_eq_ok, exists_eq_left'] at h
    obtain ⟨m, hm, rfl⟩ := h
    exact ⟨m, none, hm, fun t ht => absurd ht (Option.not_mem_none t), rfl⟩
  | some name =>
    simp only [Report.bind_eq_ok, Report.pure_eq_ok] at h
    obtain ⟨m, hm, tag, htag, rfl⟩ := h
    exact ⟨m, tag, hm, tagOf?_eq_ok htag, rfl⟩

/-- Taking over a property adds a node that the normalizer gives, or nothing. -/
theorem inheritedNode_eq_ok {properties properties' : Dict Node} {name : String}
    (h : (s.inheritedNode d normalize location properties name).result = .ok properties') :
    properties' = properties ∨
      ∃ found m, (normalize found.property found.location).result = .ok m ∧
        d.inheritedProperty? s location name = some found ∧
        properties' = properties.insert name m := by
  unfold inheritedNode at h
  split at h
  · rw [Report.pure_eq_ok] at h
    exact .inl h.symm
  · split at h
    · rw [Report.pure_eq_ok] at h
      exact .inl h.symm
    · rename_i found hfound
      simp only [Report.bind_eq_ok, Report.pure_eq_ok] at h
      obtain ⟨m, hm, rfl⟩ := h
      exact .inr ⟨found, m, hm, hfound, rfl⟩

/-- What a schema takes over comes from its ancestors. -/
theorem takeOver_congr {s' : Schema} (h : d.ancestors s' location = d.ancestors s location)
    (properties : Dict Node) (names : List String) :
    s'.takeOver d normalize location properties names =
      s.takeOver d normalize location properties names := by
  induction names generalizing properties with
  | nil => rfl
  | cons name rest ih =>
    have hnode : s'.inheritedNode d normalize location properties name =
        s.inheritedNode d normalize location properties name := by
      unfold inheritedNode Document.inheritedProperty?
      rw [h]
    rw [takeOver, takeOver, hnode]
    exact congrArg (Report.bind _) (funext ih)

/-- Whatever holds of a dictionary and stays true when the nodes of inherited properties are set in
it holds after all properties are taken over. -/
theorem takeOver_induction {P : Dict Node → Prop} {properties properties' : Dict Node}
    {names : List String} (h0 : P properties)
    (hstep : ∀ properties name found m, P properties →
      d.inheritedProperty? s location name = some found →
      (normalize found.property found.location).result = .ok m → P (properties.insert name m))
    (h : (s.takeOver d normalize location properties names).result = .ok properties') :
    P properties' := by
  induction names generalizing properties with
  | nil =>
    rw [takeOver, Report.pure_eq_ok] at h
    exact h ▸ h0
  | cons name rest ih =>
    rw [takeOver, Report.bind_eq_ok] at h
    obtain ⟨next, hnext, h⟩ := h
    refine ih ?_ h
    rcases inheritedNode_eq_ok hnext with rfl | ⟨found, m, hm, hfound, rfl⟩
    · exact h0
    · exact hstep _ _ _ _ h0 hfound hm

theorem ownShape_eq_ok {shape : List Node} :
    (s.ownShape d normalize location).result = .ok shape ↔
      (s.infersObject = false ∧ [] = shape) ∨
        (s.infersObject = true ∧ ∃ declared properties o,
          (s.propertyNodes normalize location).result = .ok declared ∧
          (s.takeOver d normalize location declared s.required).result = .ok properties ∧
          (s.objectNode normalize location properties).result = .ok o ∧
          (if o.properties.isEmpty then [] else [o]) = shape) := by
  unfold ownShape
  cases s.infersObject with
  | false =>
    simp only [Bool.false_eq_true, if_false, Report.pure_eq_ok, true_and, false_and, or_false]
  | true =>
    simp only [if_true, Report.bind_eq_ok, Report.pure_eq_ok, reduceCtorEq, false_and, true_and,
      false_or]
    constructor
    · rintro ⟨declared, hdeclared, properties, hproperties, o, ho, h⟩
      exact ⟨declared, properties, o, hdeclared, hproperties, ho, h⟩
    · rintro ⟨declared, properties, o, hdeclared, hproperties, ho, h⟩
      exact ⟨declared, hdeclared, properties, hproperties, o, ho, h⟩

theorem intersection_eq_ok {component : Option String} {branches : List (RefOr Schema)} :
    (s.intersection d normalize component location branches).result = .ok n ↔
      ∃ items shape,
        List.Forall₂ (fun branch members =>
            (s.allOfBranch d normalize component location branch).result = .ok members)
          branches.zipIdx items ∧
        (s.ownShape d normalize location).result = .ok shape ∧
        (if s.isNullable then orNull (s.intersectionOf (items.flatten ++ shape))
          else s.intersectionOf (items.flatten ++ shape)) = n := by
  unfold intersection
  simp only [Report.bind_eq_ok, Report.pure_eq_ok, Report.traverse_eq_ok]
  constructor
  · rintro ⟨items, hitems, shape, hshape, h⟩
    exact ⟨items, shape, hitems, hshape, h⟩
  · rintro ⟨items, shape, hitems, hshape, h⟩
    exact ⟨items, hitems, shape, hshape, h⟩

/-! ## Unions -/

/-- The kind and the branches of a union, if the schema has the form of one. -/
def unionBranches? (s : Schema) : Option (UnionKind × List (RefOr Schema)) :=
  match s.form with
  | .anyOf branches => some (⟨"anyOf", false⟩, branches)
  | .oneOf branches => some (⟨"oneOf", true⟩, branches)
  | _ => none

theorem normalizeLayer_of_unionBranches? {component : Option String} {kind : UnionKind}
    {branches : List (RefOr Schema)} (h : s.unionBranches? = some (kind, branches)) :
    s.normalizeLayer d normalize component location = s.union normalize kind location branches := by
  unfold unionBranches? at h
  unfold normalizeLayer
  split at h
  · rename_i hform
    cases h
    rw [hform]
  · rename_i hform
    cases h
    rw [hform]
  · cases h

/-- What a branch of a union stands for: its node, combined with its tag if it has one. -/
def alternative (s : Schema) (place : RefOr Schema) (n : Node) : Node :=
  match s.discriminator, place with
  | some discriminator, .ref r =>
    Node.composition .and
      [Node.tagged discriminator.propertyName (discriminator.tagForRef r) false, n]
  | _, _ => n

/-- What a union holds for an alternative: the alternative, or its items if it is lifted. -/
def UnionKind.members (kind : UnionKind) (n : Node) : List Node :=
  if kind.lifts && n.operator == some .or then n.items else [n]

/-- The node of a union, given what it holds for its branches, without the union's own object. -/
def unionOf (s : Schema) (members : List Node) : Node :=
  let null := if s.isNullable then [Node.ofType .null] else []
  Node.dedupe { Node.composition .or (members ++ null) with docs := s.docs }

theorem unionBranch_eq_ok {kind : UnionKind} {branch : RefOr Schema × Nat} {members : List Node} :
    (s.unionBranch normalize kind location branch).result = .ok members ↔
      ∃ m, (normalize branch.1 (locate location [kind.keyword, toString branch.2])).result = .ok m ∧
        kind.members (s.alternative branch.1 m) = members := by
  obtain ⟨place, i⟩ := branch
  unfold unionBranch
  simp only [Report.bind_eq_ok, Report.pure_eq_ok]
  rfl

/-- A union that declares no properties is the union of its branches. -/
theorem union_eq_ok_of_nil {kind : UnionKind} {branches : List (RefOr Schema)}
    (hp : s.properties.getD [] = [])
    (h : (s.union normalize kind location branches).result = .ok n) :
    ∃ members,
      List.Forall₂ (fun branch ms =>
          (s.unionBranch normalize kind location branch).result = .ok ms)
        branches.zipIdx members ∧
      s.unionOf members.flatten = n := by
  unfold union at h
  simp only [Report.bind_eq_ok, Report.traverse_eq_ok] at h
  obtain ⟨members, hmembers, h⟩ := h
  refine ⟨members, hmembers, ?_⟩
  split at h
  · simp only [Report.bind_eq_ok, Report.pure_eq_ok] at h
    obtain ⟨properties, hproperties, shape, hshape, h⟩ := h
    obtain ⟨additional, -, rfl⟩ := objectNode_eq_ok.1 hshape
    -- No property is declared, so the object has none and is left out.
    have hnil := (propertyNodes_eq_nil_iff hproperties).2 hp
    simp only [hnil, List.isEmpty_nil, if_true] at h
    exact h
  · rw [Report.pure_eq_ok] at h
    exact h

/-- A union that declares properties is intersected with the object that it declares. -/
theorem union_eq_ok_of_ne_nil {kind : UnionKind} {branches : List (RefOr Schema)}
    (hp : s.properties.getD [] ≠ [])
    (h : (s.union normalize kind location branches).result = .ok n) :
    ∃ members shape,
      List.Forall₂ (fun branch ms =>
          (s.unionBranch normalize kind location branch).result = .ok ms)
        branches.zipIdx members ∧
      (s.bareNode normalize location .object).result = .ok shape ∧ shape.properties ≠ [] ∧
      Node.composition .and [s.unionOf members.flatten, shape] = n := by
  unfold union at h
  simp only [Report.bind_eq_ok, Report.traverse_eq_ok] at h
  obtain ⟨members, hmembers, h⟩ := h
  -- There are properties, so the object is built, and it is not left out.
  have hsome : s.properties.isSome = true := by
    cases hs : s.properties with
    | none => exact absurd (by rw [hs]; rfl) hp
    | some _ => rfl
  rw [if_pos hsome] at h
  simp only [Report.bind_eq_ok, Report.pure_eq_ok] at h
  obtain ⟨properties, hproperties, shape, hshape, h⟩ := h
  have hne : shape.properties ≠ [] := by
    obtain ⟨additional, -, rfl⟩ := objectNode_eq_ok.1 hshape
    exact fun hnil => hp ((propertyNodes_eq_nil_iff hproperties).1 hnil)
  rw [if_neg (by rw [List.isEmpty_iff]; exact hne)] at h
  exact ⟨members, shape, hmembers, bareNode_object_eq_ok.2 ⟨properties, hproperties, hshape⟩, hne,
    h⟩

end Schema

end ApiShape
