import ApiShape.Proofs.Alongside.Schema
import ApiShape.Proofs.Node.Simplified
import ApiShape.Proofs.Normalize.Steps

/-!
# Spellings of types that let null in

A schema can let null in by a keyword, by an extension, by listing null among its types, or by being a
union with null. All spellings become the same node. The schemas right inside lie at other locations
in each spelling, so the node of a schema must not depend on where the schema lies.
-/

namespace ApiShape

/-! ## Locations -/

/-- Everything corresponds to itself only, but locations do not matter. -/
def Pairing.anywhere : Pairing where
  ref := Eq
  schema := Eq
  docs := Eq
  node := Eq
  location _ _ := True
  reason := Eq
  error := Eq

theorem Pairing.place_anywhere (place : RefOr Schema) : anywhere.place place place := by
  cases place with
  | ref r => exact .ref rfl
  | inline s => exact .inline rfl

theorem Pairing.holds_anywhere (d : Document) : anywhere.Holds d d where
  nodes := Node.congruence_eq
  schema s _ hs := hs ▸ Schema.alongside_refl (fun place _ => place_anywhere place) (fun _ => rfl)
    fun _ _ h => h
  text r r' q q' hr hq := by rw [show r = r' from hr, show q = q' from hq]
  normalized _ _ hr := congrArg Ref.normalized hr
  locationOf _ _ _ _ _ _ := trivial
  append _ _ _ _ := trivial
  step r _ hr := hr ▸ Both.refl (fun _ => rfl) place_anywhere _
  cycle r r' hr := by rw [show r = r' from hr]; rfl
  unresolved r r' e e' hr he := by rw [show r = r' from hr, show e = e' from he]; rfl
  endless := rfl

/-- The node of a schema does not depend on where the schema lies. -/
theorem Document.Normalizes.elsewhere {d : Document} {component : Option String}
    {place : RefOr Schema} {location : String} {n : Node}
    (h : d.Normalizes component place location n) (location' : String) :
    d.Normalizes component place location' n := by
  obtain ⟨steps, h⟩ := h
  have hanywhere := (Pairing.holds_anywhere d).normalizeWithin steps component place place location
    location' (Pairing.place_anywhere place) trivial
  obtain ⟨m, hm, hnm⟩ := hanywhere.exists_ok h
  exact ⟨steps, hm.trans (congrArg _ (show n = m from hnm).symm)⟩

namespace Schema

/-! ## Spellings -/

/-- The schema with some documentation. -/
def withDocs (s : Schema) (docs : Docs) : Schema :=
  { s with
    description := docs.description
    title := docs.title
    deprecated := docs.deprecated
    default := docs.default }

/-- None of the keywords that name types, let null in, combine schemas or document them. -/
structure IsPlain (k : Schema) : Prop where
  types : k.types = []
  nullable : k.nullable = false
  extension : k.extension? "x-nullable" = none
  enum : k.enum = none
  allOf : k.allOf = none
  anyOf : k.anyOf = none
  oneOf : k.oneOf = none
  discriminator : k.discriminator = none
  docs : k.docs = {}

/-- The keywords with a single type. -/
def branchOfType (k : Schema) (type : SchemaType) : RefOr Schema :=
  .inline { k with types := [type] }

/-- A branch for each type with the keywords, and one for null. -/
def orNullBranches (k : Schema) (types : List SchemaType) : List (RefOr Schema) :=
  types.map k.branchOfType ++ [.inline { types := [.null] }]

/-- The spellings of a schema with some documentation, keywords and types that lets null in. -/
inductive NullSpelling (k : Schema) (docs : Docs) (types : List SchemaType) : Schema → Prop
  | keyword : NullSpelling k docs types ({ k with types, nullable := true }.withDocs docs)
  | extension {before after} (h : k.extensions = before ++ after) :
      NullSpelling k docs types
        ({ k with types, extensions := before ++ ("x-nullable", Json.bool true) :: after }.withDocs docs)
  | listed {before after} (h : types = before ++ after) :
      NullSpelling k docs types ({ k with types := before ++ SchemaType.null :: after }.withDocs docs)
  | anyOf : NullSpelling k docs types
      (Schema.withDocs { anyOf := some (k.orNullBranches types) } docs)
  | oneOf : NullSpelling k docs types
      (Schema.withDocs { oneOf := some (k.orNullBranches types) } docs)

end Schema

namespace Document

variable {d : Document} {k s : Schema} {types : List SchemaType} {docs : Docs}
  {component : Option String} {location : String} {n m : Node} {nodes nodes' : List Node}

/-! ## Single types -/

/-- The keywords with a type, and without documentation, become the node. -/
def NormalizesType (d : Document) (k : Schema) (type : SchemaType) (n : Node) : Prop :=
  ∃ steps location, (k.typeNode (d.normalizeWithin steps none) location type).result = .ok n

theorem sameBody_of_eq (hconstraints : s.constraints = k.constraints) (hconst : s.const = k.const)
    (hrequired : s.required = k.required) (htuple : s.tupleLength? = k.tupleLength?)
    (hproperties : s.properties = k.properties) (hadditional : s.additional = k.additional)
    (hitems : s.items = k.items) : s.SameBody Pairing.anywhere.place k where
  constraints := hconstraints
  const := hconst
  required := hrequired
  tupleLength := htuple
  properties := hproperties ▸ rel_refl (named_refl Pairing.place_anywhere) _
  additional := hadditional ▸ rel_refl (Additional.alongside_refl Pairing.place_anywhere) _
  items := hitems ▸ rel_refl Pairing.place_anywhere _

/-- Schemas with the same keywords give a type the same node. -/
theorem normalizesType_of_sameBody {type : SchemaType} {steps : Nat}
    (hs : s.SameBody Pairing.anywhere.place k)
    (h : (s.typeNode (d.normalizeWithin steps none) location type).result = .ok n) :
    d.NormalizesType k type n := by
  have hanywhere := (Pairing.holds_anywhere d).typeNode
    ((Pairing.holds_anywhere d).normalizeWithin steps none) hs
    (show Pairing.anywhere.location location location from trivial) type
  obtain ⟨m, hm, hnm⟩ := hanywhere.exists_ok h
  have heq : n = m := hnm.1
  exact ⟨steps, location, heq ▸ hm⟩

theorem NormalizesType.unique {type : SchemaType} (hn : d.NormalizesType k type n)
    (hm : d.NormalizesType k type m) : n = m := by
  obtain ⟨steps, l, hn⟩ := hn
  obtain ⟨steps', l', hm⟩ := hm
  -- Both nodes are there within the larger number of steps.
  have hwithin : ∀ {steps most l}, steps ≤ most → Report.Within
      (k.typeNode (d.normalizeWithin steps none) l type)
      (k.typeNode (d.normalizeWithin most none) l type) := fun hle =>
    (Schema.within_bareNode (d.within_normalizeWithin hle none) type).bind fun _ => .refl _
  have hn' := hwithin (Nat.le_max_left steps steps') n hn
  have hm' := hwithin (Nat.le_max_right steps steps') m hm
  -- The locations do not matter.
  have hanywhere := (Pairing.holds_anywhere d).typeNode
    ((Pairing.holds_anywhere d).normalizeWithin (max steps steps') none)
    (sameBody_of_eq rfl rfl rfl rfl rfl rfl rfl : k.SameBody _ k)
    (show Pairing.anywhere.location l l' from trivial) type
  obtain ⟨m', hm'', hnm⟩ := hanywhere.exists_ok hn'
  have heq : n = m' := hnm.1
  exact heq.trans (Except.ok.inj (hm''.symm.trans hm'))

theorem normalizesType_unique (hn : List.Forall₂ (d.NormalizesType k) types nodes)
    (hm : List.Forall₂ (d.NormalizesType k) types nodes') : nodes = nodes' := by
  induction hn generalizing nodes' with
  | nil =>
    cases hm
    rfl
  | cons hn _ ih =>
    cases hm with
    | cons hm hrest => rw [hn.unique hm, ih hrest]

/-- The node of a type has no documentation and is no composition. -/
theorem NormalizesType.bare {type : SchemaType} (h : d.NormalizesType k type n) :
    n.docs = {} ∧ n.operator = none := by
  obtain ⟨steps, l, h⟩ := h
  obtain ⟨m, hm, rfl⟩ := Schema.typeNode_eq_ok.1 h
  show m.docs = {} ∧ m.operator = none
  cases type with
  | array =>
    rw [Schema.bareNode, Schema.arrayNode_eq, Report.map_eq_ok] at hm
    obtain ⟨item, -, rfl⟩ := hm
    unfold Schema.listOf
    split <;> exact ⟨rfl, rfl⟩
  | object =>
    obtain ⟨properties, -, hobject⟩ := Schema.bareNode_object_eq_ok.1 hm
    obtain ⟨additional, -, rfl⟩ := Schema.objectNode_eq_ok.1 hobject
    exact ⟨rfl, rfl⟩
  | string | integer | number | boolean | null | other =>
    rw [← Report.pure_eq_ok.1 hm]
    exact ⟨rfl, rfl⟩

/-! ## Types that are listed -/

/-- The union of some nodes and of null. -/
def orNullOf (docs : Docs) (nodes : List Node) : Node :=
  Node.dedupe { Node.composition .or (nodes ++ [Node.ofType .null]) with docs }

/-- A schema whose types are listed becomes what is made of the nodes of its types. -/
theorem exists_typedOf_of_normalizes (hs : s.SameBody Pairing.anywhere.place k)
    (hform : s.form = .typed) (htypes : s.effectiveTypes = types)
    (h : d.Normalizes component (.inline s) location n) :
    ∃ nodes, List.Forall₂ (d.NormalizesType k) types nodes ∧ n = s.typedOf nodes := by
  obtain ⟨steps, h⟩ := normalizes_inline_iff.1 h
  unfold Schema.normalizeLayer at h
  rw [hform] at h
  obtain ⟨nodes, hnodes, rfl⟩ := Schema.typed_eq_ok.1 h
  rw [htypes] at hnodes
  exact ⟨nodes, hnodes.imp fun _ _ hnode => normalizesType_of_sameBody hs hnode, rfl⟩

theorem effectiveTypes_of_filter (h : s.types.filter (· ≠ .null) = types) (hne : types ≠ [])
    (hnodup : types.Nodup) : s.effectiveTypes = types := by
  unfold Schema.effectiveTypes
  rw [h, eraseDups_of_nodup hnodup]
  cases types with
  | nil => exact absurd rfl hne
  | cons _ _ => rfl

/-- A schema that lists types and does not combine schemas has the form of its types. -/
theorem form_eq_typed (hk : k.IsPlain) (hs : s.enum = k.enum) (hallOf : s.allOf = k.allOf)
    (hanyOf : s.anyOf = k.anyOf) (honeOf : s.oneOf = k.oneOf) (hne : s.types ≠ []) :
    s.form = .typed := by
  unfold Schema.form
  rw [hs, hallOf, hanyOf, honeOf, hk.enum, hk.allOf, hk.anyOf, hk.oneOf]
  cases htypes : s.types with
  | nil => exact absurd htypes hne
  | cons _ _ => rfl

/-- A schema that lists types and lets null in becomes the union of the types and null. -/
theorem eq_orNullOf_of_types (hs : s.SameBody Pairing.anywhere.place k) (hform : s.form = .typed)
    (hfilter : s.types.filter (· ≠ .null) = types) (hne : types ≠ []) (hnodup : types.Nodup)
    (hnull : s.isNullable = true) (h : d.Normalizes component (.inline s) location n) :
    ∃ nodes, List.Forall₂ (d.NormalizesType k) types nodes ∧ n = orNullOf s.docs nodes := by
  have htypes := effectiveTypes_of_filter hfilter hne hnodup
  obtain ⟨nodes, hnodes, rfl⟩ := exists_typedOf_of_normalizes hs hform htypes h
  refine ⟨nodes, hnodes, ?_⟩
  unfold Schema.typedOf
  rw [hnull]
  -- Both a single type and several go into one union with null.
  match nodes with
  | [] => exact absurd (List.forall₂_nil_right_iff.1 hnodes) hne
  | [_] | _ :: _ :: _ => rfl

/-! ## Types that are branches -/

/-- The branch of a type becomes the node of the type. -/
theorem normalizesType_of_branchOfType {type : SchemaType} (hk : k.IsPlain) (hnull : type ≠ .null)
    (h : d.Normalizes component (k.branchOfType type) location n) : d.NormalizesType k type n := by
  have hbody : Schema.SameBody Pairing.anywhere.place { k with types := [type] } k :=
    sameBody_of_eq rfl rfl rfl rfl rfl rfl rfl
  have hform := form_eq_typed (s := { k with types := [type] }) hk rfl rfl rfl rfl nofun
  have hfilter : [type].filter (· ≠ .null) = [type] := by
    rw [List.filter_singleton, decide_eq_true hnull]
    rfl
  have htypes := effectiveTypes_of_filter (s := { k with types := [type] }) hfilter nofun
    (List.pairwise_singleton _ type)
  obtain ⟨nodes, hnodes, rfl⟩ := exists_typedOf_of_normalizes hbody hform htypes h
  obtain ⟨n, _, hn, hrest, rfl⟩ := List.forall₂_cons_left_iff.1 hnodes
  obtain rfl := List.forall₂_nil_left_iff.1 hrest
  have hnot : Schema.isNullable { k with types := [type] } = false := by
    have hextension := hk.extension
    unfold Schema.extension? at hextension
    simp [Schema.isNullable, Schema.extension?, hk.nullable, hextension, hnull.symm]
  -- A single type that lets no null in keeps its node, and there is no documentation to put on it.
  have hdocs : Schema.docs { k with types := [type] } = n.docs := hk.docs.trans hn.bare.1.symm
  unfold Schema.typedOf
  rw [hnot]
  dsimp only
  rw [hdocs]
  cases n
  exact hn

theorem eq_ofType_null (h : d.Normalizes component (.inline { types := [.null] }) location n) :
    n = .ofType .null := by
  obtain ⟨steps, h⟩ := normalizes_inline_iff.1 h
  exact (Except.ok.inj h).symm

/-- The branches hold the nodes of the types, and null. -/
theorem flatten_orNullBranches (hk : k.IsPlain) (hnull : .null ∉ types) {kind : Schema.UnionKind}
    (hdiscriminator : s.discriminator = none) {steps i : Nat} {members : List (List Node)}
    (h : List.Forall₂ (fun branch ms =>
        (s.unionBranch (d.normalizeWithin steps none) kind location branch).result = .ok ms)
      ((k.orNullBranches types).zipIdx i) members) :
    ∃ nodes, List.Forall₂ (d.NormalizesType k) types nodes ∧
      members.flatten = nodes ++ [.ofType .null] := by
  -- A branch that is no union is held as it is.
  have hmembers : ∀ {place n}, n.operator = none →
      kind.members (s.alternative place n) = [n] := by
    intro place n hn
    unfold Schema.alternative Schema.UnionKind.members
    rw [hdiscriminator]
    dsimp only
    rw [hn, Bool.and_comm]
    rfl
  induction types generalizing i members with
  | nil =>
    obtain ⟨ms, _, hms, hrest, rfl⟩ := List.forall₂_cons_left_iff.1 h
    obtain rfl := List.forall₂_nil_left_iff.1 hrest
    obtain ⟨m, hm, rfl⟩ := Schema.unionBranch_eq_ok.1 hms
    obtain rfl := eq_ofType_null ⟨steps, hm⟩
    refine ⟨[], .nil, ?_⟩
    rw [hmembers rfl]
    rfl
  | cons type rest ih =>
    obtain ⟨ms, members, hms, hrest, rfl⟩ := List.forall₂_cons_left_iff.1 h
    obtain ⟨m, hm, rfl⟩ := Schema.unionBranch_eq_ok.1 hms
    have hm : d.NormalizesType k type m :=
      normalizesType_of_branchOfType hk (fun h => hnull (h ▸ List.mem_cons_self)) ⟨steps, hm⟩
    obtain ⟨nodes, hnodes, hflatten⟩ := ih (fun h => hnull (List.mem_cons_of_mem _ h)) hrest
    refine ⟨m :: nodes, .cons hm hnodes, ?_⟩
    rw [hmembers hm.bare.2, List.flatten_cons, hflatten]
    rfl

/-- A union of the types and null becomes the same as a list of the types that lets null in. -/
theorem eq_orNullOf_of_branches (hk : k.IsPlain) (hnull : .null ∉ types) {kind : Schema.UnionKind}
    (hs : s.unionBranches? = some (kind, k.orNullBranches types)) (hproperties : s.properties = none)
    (hdiscriminator : s.discriminator = none) (hnot : s.isNullable = false)
    (h : d.Normalizes component (.inline s) location n) :
    ∃ nodes, List.Forall₂ (d.NormalizesType k) types nodes ∧ n = orNullOf s.docs nodes := by
  obtain ⟨steps, h⟩ := normalizes_inline_iff.1 h
  rw [Schema.normalizeLayer_of_unionBranches? hs] at h
  have hnil : s.properties.getD [] = [] := by rw [hproperties]; rfl
  obtain ⟨members, hmembers, rfl⟩ := Schema.union_eq_ok_of_nil hnil h
  obtain ⟨nodes, hnodes, hflatten⟩ := flatten_orNullBranches hk hnull hdiscriminator hmembers
  refine ⟨nodes, hnodes, ?_⟩
  unfold Schema.unionOf orNullOf
  rw [hnot, hflatten]
  simp only [Bool.false_eq_true, if_false, List.append_nil]

/-! ## All spellings -/

/-- Every spelling becomes the union of the types and null. -/
theorem eq_orNullOf_of_nullSpelling (hk : k.IsPlain) (hne : types ≠ []) (hnull : .null ∉ types)
    (hnodup : types.Nodup) (hs : k.NullSpelling docs types s)
    (h : d.Normalizes component (.inline s) location n) :
    ∃ nodes, List.Forall₂ (d.NormalizesType k) types nodes ∧ n = orNullOf docs nodes := by
  have hall : types.filter (· ≠ .null) = types := by
    rw [List.filter_eq_self]
    exact fun type htype => decide_eq_true fun h => hnull (h ▸ htype)
  have hbody : ∀ types nullable extensions, Schema.SameBody Pairing.anywhere.place
      (Schema.withDocs { k with types, nullable, extensions } docs) k :=
    fun _ _ _ => sameBody_of_eq rfl rfl rfl rfl rfl rfl rfl
  have hform : ∀ types nullable extensions, types ≠ [] →
      (Schema.withDocs { k with types, nullable, extensions } docs).form = .typed :=
    fun _ _ _ hne => form_eq_typed hk rfl rfl rfl rfl hne
  cases hs with
  | keyword => exact eq_orNullOf_of_types (hbody _ _ _) (hform _ _ _ hne) hall hne hnodup rfl h
  | @extension before after hsplit =>
    -- The extension is there, as nothing of its name comes before it.
    have hbefore : Dict.get? before "x-nullable" = none := by
      have hnone := hk.extension
      rw [Schema.extension?, hsplit, Dict.get?_append, Option.or_eq_none_iff] at hnone
      exact hnone.1
    have hnullable : (Schema.withDocs { k with
        types, extensions := before ++ ("x-nullable", Json.bool true) :: after } docs).isNullable =
          true := by
      have hextension : Dict.get? (before ++ ("x-nullable", Json.bool true) :: after) "x-nullable" =
          some (.bool true) := by
        rw [Dict.get?_append, hbefore]
        rfl
      unfold Schema.isNullable Schema.extension?
      show (_ || _ || (Dict.get? (before ++ ("x-nullable", Json.bool true) :: after)
        "x-nullable").bind Json.bool? == some true) = true
      rw [hextension]
      exact Bool.or_true _
    exact eq_orNullOf_of_types (hbody _ _ _) (hform _ _ _ hne) hall hne hnodup hnullable h
  | @listed before after hsplit =>
    have hfilter : (before ++ SchemaType.null :: after).filter (· ≠ .null) = types := by
      rw [← hall, hsplit, List.filter_append, List.filter_append]
      rfl
    have hnullable : (Schema.withDocs { k with
        types := before ++ SchemaType.null :: after } docs).isNullable = true := by
      unfold Schema.isNullable
      simp [Schema.withDocs]
    exact eq_orNullOf_of_types (hbody _ _ _) (hform _ _ _ (by simp)) hfilter hne hnodup hnullable h
  | anyOf => exact eq_orNullOf_of_branches hk hnull rfl rfl rfl rfl h
  | oneOf => exact eq_orNullOf_of_branches hk hnull rfl rfl rfl rfl h

/-- All spellings of a schema that lets null in become the same node, wherever they lie and whether
they are named or not. -/
theorem normalizes_nullSpelling_unique {s' : Schema} {component' : Option String}
    {location' : String} (hk : k.IsPlain) (hne : types ≠ []) (hnull : .null ∉ types)
    (hnodup : types.Nodup) (hs : k.NullSpelling docs types s) (hs' : k.NullSpelling docs types s')
    (hn : d.Normalizes component (.inline s) location n)
    (hm : d.Normalizes component' (.inline s') location' m) : n = m := by
  obtain ⟨nodes, hnodes, rfl⟩ := eq_orNullOf_of_nullSpelling hk hne hnull hnodup hs hn
  obtain ⟨nodes', hnodes', rfl⟩ := eq_orNullOf_of_nullSpelling hk hne hnull hnodup hs' hm
  rw [normalizesType_unique hnodes hnodes']

/-- Items that are names. -/
def names : Schema :=
  { items := some (.inline { types := [.string] }) }

/-- A size, the names of sizes, or null. -/
def sizeNode : Node :=
  { operator := some .or
    items := [.ofType .number, { type := some .array, items := [.ofType .string] }, .ofType .null]
    docs := { description := some "a size" } }

theorem normalizes_nullSpelling_unique_size :
    sizeNode = orNullOf { description := some "a size" }
      [.ofType .number, { type := some .array, items := [.ofType .string] }] := by
  have hplain : names.IsPlain := ⟨rfl, rfl, rfl, rfl, rfl, rfl, rfl, rfl, rfl⟩
  have hsimplified : Node.Simplified .or sizeNode.items := by
    refine ⟨by decide, ?_, ?_⟩
    · intro m hm
      simp only [sizeNode, List.mem_cons, List.not_mem_nil, or_false] at hm
      rcases hm with rfl | rfl | rfl <;> rfl
    · rw [sizeNode]
      simp [Node.ofType, Node.structurallyEq]
  have hlisted : Document.Normalizes {} none (.inline (Schema.withDocs { names with
      types := [.null, .integer, .array] } { description := some "a size" })) "#" sizeNode := by
    refine ⟨2, ?_⟩
    show Except.ok (Node.dedupe sizeNode) = .ok sizeNode
    rw [Node.dedupe, Node.dedupeAs_of_simplified rfl hsimplified]
    rfl
  have hunion : Document.Normalizes {} (some "Size") (.inline (Schema.withDocs {
      oneOf := some (names.orNullBranches [.integer, .array]) } { description := some "a size" }))
      "#/components/schemas/Size" (orNullOf { description := some "a size" }
        [.ofType .number, { type := some .array, items := [.ofType .string] }]) := ⟨3, rfl⟩
  have hspelling : names.NullSpelling { description := some "a size" } [.integer, .array] _ :=
    .listed (show [SchemaType.integer, .array] = [] ++ [.integer, .array] from rfl)
  exact normalizes_nullSpelling_unique hplain (by decide) (by decide) (by decide) hspelling .oneOf
    hlisted hunion

end Document

end ApiShape
