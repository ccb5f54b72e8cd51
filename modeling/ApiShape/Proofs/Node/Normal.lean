import ApiShape.Proofs.Node.Simplified
import ApiShape.Proofs.Normalize.Layer

/-!
# The nodes that normalization builds

A grammar of nodes, and the proof that simplification and the other rewrites of nodes stay within
it. Everything that holds of all normalized nodes can be read off the grammar.
-/

namespace ApiShape

/-- The types of nodes that have nothing inside them. -/
def NodeType.isPlain : NodeType → Bool
  | .string | .number | .boolean | .null | .unknown | .never | .void => true
  | .object | .array | .tuple | .enum => false

/-- The types that the literals of enums have. -/
def NodeType.isLiteral : NodeType → Bool
  | .string | .number | .boolean | .null => true
  | _ => false

namespace Node

/-- The node is a constant of a literal type, and nothing else but documentation. -/
def IsLiteral (n : Node) : Prop :=
  ∃ type value docs, type.isLiteral = true ∧
    n = { type := some type, const := some value, docs }

/-- The nodes that normalization builds, given which unions are joined with which objects. -/
inductive Normal (Shaped : Node → Node → Prop) : Node → Prop
  | blank (docs : Docs) : Normal Shaped { docs }
  | reference (reference : String) (docs : Docs) (hdocs : docs.default = none) :
      Normal Shaped { reference := some reference, docs }
  | plain (type : NodeType) (const : Option Json) (docs : Docs) (constraints : Constraints)
      (htype : type.isPlain = true) : Normal Shaped { type := some type, const, docs, constraints }
  | array (item : Option Node) (const : Option Json) (docs : Docs) (constraints : Constraints)
      (hitem : ∀ m ∈ item, Normal Shaped m) :
      Normal Shaped { type := some .array, items := item.toList, const, docs, constraints }
  | tuple (length : Nat) (item : Node) (const : Option Json) (docs : Docs)
      (constraints : Constraints) (hlength : 1 ≤ length ∧ length ≤ Schema.maxTupleLength)
      (hmin : constraints.minItems = some length) (hmax : constraints.maxItems = some length)
      (hitem : Normal Shaped item) :
      Normal Shaped
        { type := some .tuple, items := List.replicate length item, const, docs, constraints }
  | object (properties : List (String × Node)) (required : List String) (additional : Option Node)
      (const : Option Json) (docs : Docs) (constraints : Constraints)
      (hrequired : ∀ name ∈ required, Dict.has properties name = true)
      (hproperties : ∀ e ∈ properties, Normal Shaped e.2)
      (hadditional : ∀ m ∈ additional, Normal Shaped m) :
      Normal Shaped
        { type := some .object, properties, required, additional, const, docs, constraints }
  | enum (items : List Node) (docs : Docs) (hitems : ∀ m ∈ items, IsLiteral m) :
      Normal Shaped { type := some .enum, operator := some .or, items, docs }
  | composition (operator : Operator) (items : List Node) (docs : Docs)
      (hitems : ∀ m ∈ items, Normal Shaped m) (hsimplified : Simplified operator items) :
      Normal Shaped { operator := some operator, items, docs }
  /-- The intersection of a union with the object that the union declares, which is the one
  composition that is not simplified. -/
  | shaped (union shape : Node) (docs : Docs) (hshaped : Shaped union shape)
      (hunion : Normal Shaped union) (hshape : Normal Shaped shape)
      (hbare : union.isBareUnknown = false) (htype : shape.type = some .object)
      (hproperties : shape.properties ≠ []) :
      Normal Shaped { operator := some .and, items := [union, shape], docs }

variable {Shaped : Node → Node → Prop} {n m : Node} {docs : Docs} {operator : Operator}

/-! ## Literals, plain nodes, tags -/

theorem IsLiteral.normal (h : IsLiteral n) : Normal Shaped n := by
  obtain ⟨type, value, docs, htype, rfl⟩ := h
  refine .plain type (some value) docs {} ?_
  cases type <;> first | rfl | cases htype

theorem normal_ofType {type : NodeType} (h : type.isPlain = true) : Normal Shaped (ofType type) :=
  .plain type none {} {} h

theorem normal_ofReference (reference : String) : Normal Shaped (ofReference reference) :=
  .reference reference {} rfl

theorem normal_tagged (property value : String) (required : Bool) :
    Normal Shaped (tagged property value required) := by
  have hhas : ∀ m : Node, Dict.has [(property, m)] property = true := by
    intro m
    simp only [Dict.has, Dict.get?, if_true, Option.isSome_some]
  refine .object _ _ none none {} {} ?_ ?_ (fun m hm => by cases hm)
  · intro name hname
    split at hname
    · rw [List.mem_singleton.1 hname]
      exact hhas _
    · cases hname
  · intro e he
    rw [List.mem_singleton.1 he]
    exact .plain .string _ {} {} rfl

/-! ## Other documentation -/

/-- Documentation can be replaced, as long as references get no default. -/
theorem Normal.withDocs (h : Normal Shaped n)
    (hdocs : n.reference.isSome = true → docs.default = none) : Normal Shaped { n with docs } := by
  cases h with
  | blank => exact .blank docs
  | reference r => exact .reference r docs (hdocs rfl)
  | plain type const _ constraints htype => exact .plain type const docs constraints htype
  | array item const _ constraints hitem => exact .array item const docs constraints hitem
  | tuple length item const _ constraints hlength hmin hmax hitem =>
    exact .tuple length item const docs constraints hlength hmin hmax hitem
  | object properties required additional const _ constraints hrequired hproperties hadditional =>
    exact .object properties required additional const docs constraints hrequired hproperties
      hadditional
  | enum items _ hitems => exact .enum items docs hitems
  | composition operator items _ hitems hs => exact .composition operator items docs hitems hs
  | shaped union shape _ hshaped hunion hshape hbare htype hproperties =>
    exact .shaped union shape docs hshaped hunion hshape hbare htype hproperties

theorem Normal.default_eq_none (h : Normal Shaped n) (hr : n.reference.isSome = true) :
    n.docs.default = none := by
  cases h with
  | reference _ _ hdocs => exact hdocs
  | _ => cases hr

/-- Documentation can be replaced by one with the same default. -/
theorem Normal.withDocs_of_default_eq (h : Normal Shaped n)
    (hdocs : docs.default = n.docs.default) : Normal Shaped { n with docs } :=
  h.withDocs fun hr => hdocs.trans (h.default_eq_none hr)

/-! ## Children -/

/-- The nodes right inside a node of the grammar are in the grammar. -/
theorem Normal.children (h : Normal Shaped n) : ∀ m ∈ n.children, Normal Shaped m := by
  intro m hm
  simp only [Node.children, List.mem_append, List.mem_map, Option.mem_toList] at hm
  cases h with
  | blank | reference | plain =>
    rcases hm with (hm | ⟨_, hm, _⟩) | hm <;> cases hm
  | array item const docs constraints hitem =>
    rcases hm with (hm | ⟨_, hm, _⟩) | hm
    · exact hitem m (Option.mem_toList.1 hm)
    · cases hm
    · cases hm
  | tuple length item const docs constraints hlength hmin hmax hitem =>
    rcases hm with (hm | ⟨_, hm, _⟩) | hm
    · exact (List.mem_replicate.1 hm).2 ▸ hitem
    · cases hm
    · cases hm
  | object properties required additional const docs constraints hrequired hproperties hadditional =>
    rcases hm with (hm | ⟨e, he, rfl⟩) | hm
    · cases hm
    · exact hproperties e he
    · exact hadditional m hm
  | enum items docs hitems =>
    rcases hm with (hm | ⟨_, hm, _⟩) | hm
    · exact (hitems m hm).normal
    · cases hm
    · cases hm
  | composition operator items docs hitems =>
    rcases hm with (hm | ⟨_, hm, _⟩) | hm
    · exact hitems m hm
    · cases hm
    · cases hm
  | shaped union shape docs hshaped hunion hshape =>
    rcases hm with (hm | ⟨_, hm, _⟩) | hm
    · rcases List.mem_cons.1 hm with rfl | hm
      · exact hunion
      · exact List.mem_singleton.1 hm ▸ hshape
    · cases hm
    · cases hm

/-! ## Compositions -/

/-- The node combines nodes of the grammar, simplified or not. -/
inductive Composed (Shaped : Node → Node → Prop) : Node → Prop
  | enum (items : List Node) (docs : Docs) (hitems : ∀ m ∈ items, IsLiteral m) :
      Composed Shaped { type := some .enum, operator := some .or, items, docs }
  | composition (operator : Operator) (items : List Node) (docs : Docs)
      (hitems : ∀ m ∈ items, Normal Shaped m) :
      Composed Shaped { operator := some operator, items, docs }

theorem Normal.composed (h : Normal Shaped n) (ho : n.operator = some operator) :
    Composed Shaped n := by
  cases h with
  | enum items docs hitems => exact .enum items docs hitems
  | composition operator items docs hitems => exact .composition operator items docs hitems
  | shaped union shape docs hshaped hunion hshape =>
    refine .composition .and [union, shape] docs ?_
    intro m hm
    rcases List.mem_cons.1 hm with rfl | hm
    · exact hunion
    · exact List.mem_singleton.1 hm ▸ hshape
  | _ => cases ho

theorem Composed.normal_of_mem (h : Composed Shaped n) (hm : m ∈ n.items) : Normal Shaped m := by
  cases h with
  | enum items _ hitems => exact (hitems m hm).normal
  | composition _ items _ hitems => exact hitems m hm

/-- Simplification stays within the grammar. -/
theorem normal_dedupeAs {n : Node} {docs : Docs} (h : n.operator = none → Normal Shaped n)
    (ho : ∀ operator, n.operator = some operator → Composed Shaped n)
    (hdocs : n.reference.isSome = true → docs.default = none) : Normal Shaped (dedupeAs docs n) := by
  revert h ho hdocs
  refine dedupeAs_induction (motive := fun docs n simple => (n.operator = none → Normal Shaped n) →
    (∀ operator, n.operator = some operator → Composed Shaped n) →
    (n.reference.isSome = true → docs.default = none) → Normal Shaped simple) ?_ ?_ ?_ ?_ docs n
  · intro docs n hn h _ hdocs
    exact (h hn).withDocs hdocs
  · intro docs n operator hn _ _ _ _ _
    exact .blank {}
  · intro docs n operator m hn hs hm ih _ ho _
    -- The survivor is an item, so it is in the grammar, and so is what it is simplified to.
    have hmem : m ∈ n.items :=
      (sublist_survivors operator n.items).subset (hs ▸ List.mem_singleton_self m)
    have hnormal : Normal Shaped m := (ho operator hn).normal_of_mem hmem
    exact ih (fun _ => hnormal) (fun _ hm => hnormal.composed hm) hnormal.default_eq_none
  · intro docs n operator hn htwo _ ho _
    have hsub := (sublist_survivors operator n.items).subset
    -- An enum stays an enum of some of its literals; other compositions are simplified now.
    cases ho operator hn with
    | enum items _ hitems => exact .enum _ docs fun m hm => hitems m (hsub hm)
    | composition operator' items _ hitems =>
      cases hn
      exact .composition _ _ docs (fun m hm => hitems m (hsub hm)) (simplified_survivors htwo)

/-- A simplified composition of nodes of the grammar is in the grammar. -/
theorem normal_dedupe_composition {items : List Node} (h : ∀ m ∈ items, Normal Shaped m) :
    Normal Shaped (dedupe { composition operator items with docs }) :=
  normal_dedupeAs (fun hn => by cases hn) (fun _ _ => .composition operator items docs h)
    (fun hr => by cases hr)

theorem isBareUnknown_of_operator (h : n.operator = some operator) : n.isBareUnknown = false := by
  unfold isBareUnknown isShapeless
  rw [h]
  simp only [Option.isNone_some, Bool.and_false, Bool.false_and]

/-- Simplification comes to a bare unknown type only where it starts from one. -/
theorem isBareUnknown_dedupeAs {n : Node} {docs : Docs} (h : n.isBareUnknown = false) :
    (dedupeAs docs n).isBareUnknown = false := by
  revert h
  refine dedupeAs_induction
    (motive := fun _ n simple => n.isBareUnknown = false → simple.isBareUnknown = false)
    ?_ ?_ ?_ ?_ docs n
  · intro docs n _ h
    exact h
  · intro docs n operator _ _ _ _
    rfl
  · intro docs n operator m _ _ hm ih _
    exact ih hm
  · intro docs n operator hn _ _
    exact isBareUnknown_of_operator hn

/-! ## The other rewrites -/

theorem promote_eq_self (required : List String) (hp : n.properties = []) (hr : n.required = []) :
    Schema.promote required n = n := by
  unfold Schema.promote
  -- Without properties there is nothing that could be required.
  have hnone : required.filter (Dict.has n.properties) = [] := by
    rw [hp, List.filter_eq_nil_iff]
    intro name _ hname
    cases hname
  rw [hnone, hr]
  cases n
  cases hr
  rfl

theorem Normal.promote (h : Normal Shaped n) (required : List String) :
    Normal Shaped (Schema.promote required n) := by
  have hn := h
  cases h with
  | object properties required' additional const docs constraints hrequired hproperties
      hadditional =>
    refine .object properties _ additional const docs constraints ?_ hproperties hadditional
    -- What is required now was required before, or was looked up among the properties.
    intro name hname
    rcases List.mem_append.1 (List.mem_eraseDups.1 hname) with hname | hname
    · exact hrequired name hname
    · exact (List.mem_filter.1 hname).2
  | _ =>
    rw [promote_eq_self required rfl rfl]
    exact hn

theorem Normal.orNull (h : Normal Shaped n) : Normal Shaped (Schema.orNull n) := by
  refine normal_dedupe_composition ?_
  intro m hm
  rcases List.mem_cons.1 hm with rfl | hm
  · exact h.withDocs h.default_eq_none
  · exact List.mem_singleton.1 hm ▸ normal_ofType rfl

end Node

end ApiShape
