import ApiShape.Proofs.Document.Places
import ApiShape.Proofs.Normalize.Normal
import Mathlib.Data.List.Nodup

/-!
# Conditions that the building of nodes keeps

A condition on the reference, the properties and the required names of a node. If references that
resolve satisfy it, and the objects that schemas declare, then every node at any depth of what a
schema becomes satisfies it.
-/

namespace ApiShape

/-! ## What conditions must keep to -/

namespace Node

variable {Q : Node → Prop} {n m : Node}

/-- The condition looks at the reference, the properties and the required names only. It holds of
nodes that have none of these, of objects with properties that can be declared, and does not depend
on which names are required. -/
structure Building (D : Dict Node → Prop) (Q : Node → Prop) : Prop where
  empty : D []
  insert : ∀ properties name n, D properties → D (properties.insert name n)
  bare : ∀ n : Node, n.reference = none → n.properties = [] → n.required = [] → Q n
  object : ∀ n : Node, n.reference = none → D n.properties → n.required.Nodup → Q n
  same : ∀ n m : Node, m.reference = n.reference → m.properties = n.properties →
    m.required = n.required → Q n → Q m
  promoted : ∀ (n : Node) required, Q n → required.Nodup → Q { n with required }

variable {D : Dict Node → Prop} {items : List Node} {docs : Docs} {operator : Operator}

/-- A node with items and nothing else inside. -/
theorem Building.everywhere_of_items (hB : Building D Q) (hr : n.reference = none)
    (hp : n.properties = []) (hq : n.required = []) (ha : n.additional = none)
    (hitems : ∀ m ∈ n.items, m.Everywhere Q) : n.Everywhere Q := by
  refine everywhere_iff.2 ⟨hB.bare n hr hp hq, fun c hc => ?_⟩
  unfold children at hc
  rw [hp, ha, List.map_nil, List.append_nil, Option.toList_none, List.append_nil] at hc
  exact hitems c hc

theorem Building.everywhere_ofType (hB : Building D Q) (type : NodeType) :
    (ofType type).Everywhere Q :=
  hB.everywhere_of_items rfl rfl rfl rfl fun m hm => by cases hm

theorem Building.everywhere_isLiteral (hB : Building D Q) (h : n.IsLiteral) : n.Everywhere Q := by
  obtain ⟨type, value, docs, _, rfl⟩ := h
  exact hB.everywhere_of_items rfl rfl rfl rfl fun m hm => by cases hm

/-- An object. -/
theorem Building.everywhere_object (hB : Building D Q) (hr : n.reference = none)
    (hi : n.items = []) (hD : D n.properties) (hq : n.required.Nodup)
    (hproperties : ∀ e ∈ n.properties, e.2.Everywhere Q)
    (hadditional : ∀ m ∈ n.additional, m.Everywhere Q) : n.Everywhere Q := by
  refine everywhere_iff.2 ⟨hB.object n hr hD hq, fun c hc => ?_⟩
  simp only [children, hi, List.nil_append, List.mem_append, List.mem_map, Option.mem_toList] at hc
  rcases hc with ⟨e, he, rfl⟩ | hc
  · exact hproperties e he
  · exact hadditional c hc

theorem Building.everywhere_tagged (hB : Building D Q) (property tag : String) (required : Bool) :
    (tagged property tag required).Everywhere Q := by
  refine hB.everywhere_object rfl rfl (hB.insert [] _ _ hB.empty) ?_ ?_ (fun m hm => by cases hm)
  · unfold tagged
    dsimp only
    split
    · exact List.nodup_singleton _
    · exact List.nodup_nil
  · intro e he
    rw [List.mem_singleton.1 he]
    exact hB.everywhere_of_items rfl rfl rfl rfl fun m hm => by cases hm

/-- Other documentation, constants and validation keywords make no difference. -/
theorem Building.everywhere_same (hB : Building D Q) (h : n.Everywhere Q)
    (hreference : m.reference = n.reference) (hproperties : m.properties = n.properties)
    (hrequired : m.required = n.required) (hchildren : m.children = n.children) :
    m.Everywhere Q := by
  refine everywhere_iff.2 ⟨hB.same n m hreference hproperties hrequired h.self, fun c hc => ?_⟩
  rw [hchildren] at hc
  exact h.child hc

theorem Building.everywhere_withDocs (hB : Building D Q) (h : n.Everywhere Q) (docs : Docs) :
    Everywhere Q { n with docs } :=
  hB.everywhere_same h rfl rfl rfl rfl

theorem Building.everywhere_promote (hB : Building D Q) (h : n.Everywhere Q)
    (required : List String) : (Schema.promote required n).Everywhere Q := by
  have hself := hB.promoted n _ h.self
    (nodup_eraseDups (n.required ++ required.filter (Dict.has n.properties)))
  exact everywhere_iff.2 ⟨hself, fun c hc => h.child hc⟩

/-- Simplification keeps nodes or drops them. -/
theorem Building.everywhere_dedupeAs (hB : Building D Q) (h : n.Everywhere Q) (docs : Docs) :
    (dedupeAs docs n).Everywhere Q := by
  revert h
  refine dedupeAs_induction
    (motive := fun _ n simple => n.Everywhere Q → simple.Everywhere Q) ?_ ?_ ?_ ?_ docs n
  · intro docs n _ h
    exact hB.everywhere_withDocs h docs
  · intro docs n operator _ _ _ _
    exact hB.everywhere_of_items rfl rfl rfl rfl fun m hm => by cases hm
  · intro docs n operator m _ hs _ ih h
    have hm : m ∈ survivors operator n.items := hs ▸ List.mem_singleton_self m
    exact ih (h.item (mem_of_mem_survivors hm))
  · intro docs n operator _ _ h
    refine everywhere_iff.2 ⟨hB.same n _ rfl rfl rfl h.self, fun c hc => ?_⟩
    simp only [children, List.mem_append] at hc
    rcases hc with (hc | hc) | hc
    · exact h.item (mem_of_mem_survivors hc)
    · exact h.child (List.mem_append_left _ (List.mem_append_right _ hc))
    · exact h.child (List.mem_append_right _ hc)

theorem Building.everywhere_dedupe_composition (hB : Building D Q)
    (h : ∀ m ∈ items, m.Everywhere Q) :
    (dedupe { composition operator items with docs }).Everywhere Q :=
  hB.everywhere_dedupeAs (hB.everywhere_of_items rfl rfl rfl rfl h) _

theorem Building.everywhere_orNull (hB : Building D Q) (h : n.Everywhere Q) :
    (Schema.orNull n).Everywhere Q := by
  refine hB.everywhere_dedupe_composition fun m hm => ?_
  rcases List.mem_cons.1 hm with rfl | hm
  · exact hB.everywhere_withDocs h _
  · exact List.mem_singleton.1 hm ▸ hB.everywhere_ofType .null

end Node

/-! ## What schemas become -/

/-- The schemas to be normalized stand at places of a kind, which the places in them and the
properties that they take over are of as well. -/
structure Document.Closed (d : Document) (S : RefOr Schema → Prop) : Prop where
  part : ∀ s, S (.inline s) → ∀ place ∈ Schema.parts s, S place
  inherited : ∀ s location name found, S (.inline s) →
    d.inheritedProperty? s location name = some found → S found.property

/-- At places of the kind the normalizer gives nodes that satisfy the condition at every depth. -/
def Normalizer.Builds (normalize : Normalizer) (S : RefOr Schema → Prop) (Q : Node → Prop) : Prop :=
  ∀ place location n, S place → (normalize place location).result = .ok n → n.Everywhere Q

namespace Schema

open Node

variable {d : Document} {S : RefOr Schema → Prop} {D : Dict Node → Prop} {Q : Node → Prop}
  {normalize : Normalizer} {s : Schema} {location : String} {n : Node}

theorem everywhere_enumeration (hB : Building D Q) {ε : Type} {values : List Json}
    (h : (s.enumeration location values : Report ε Node).result = .ok n) : n.Everywhere Q := by
  unfold enumeration at h
  simp only [Report.bind_eq_ok, Report.pure_eq_ok] at h
  obtain ⟨items, hitems, rfl⟩ := h
  exact hB.everywhere_of_items rfl rfl rfl rfl fun m hm =>
    hB.everywhere_isLiteral (isLiteral_of_mem_literals hitems m hm)

/-- The branches of a composition lie right inside the schema. -/
theorem mem_parts_of_form {branches : List (RefOr Schema)} {place : RefOr Schema}
    (h : s.form = .allOf branches ∨ s.form = .anyOf branches ∨ s.form = .oneOf branches)
    (hplace : place ∈ branches) : place ∈ s.parts := by
  suffices hkeyword : s.allOf = some branches ∨ s.anyOf = some branches ∨ s.oneOf = some branches by
    unfold parts
    simp only [List.mem_append]
    rcases hkeyword with hkeyword | hkeyword | hkeyword
    · rw [hkeyword]
      exact .inl (.inl (.inr hplace))
    · rw [hkeyword]
      exact .inl (.inr hplace)
    · rw [hkeyword]
      exact .inr hplace
  unfold form at h
  split at h
  · rcases h with h | h | h <;> cases h
  · rename_i hallOf
    rcases h with h | h | h <;> cases h
    exact .inl hallOf
  · rename_i hanyOf
    rcases h with h | h | h <;> cases h
    exact .inr (.inl hanyOf)
  · rename_i honeOf
    rcases h with h | h | h <;> cases h
    exact .inr (.inr honeOf)
  · split at h <;> rcases h with h | h | h <;> cases h

theorem everywhere_propertyNodes (hn : normalize.Builds S Q) (hS : ∀ place ∈ s.parts, S place)
    {properties : Dict Node}
    (h : (s.propertyNodes normalize location).result = .ok properties) :
    ∀ e ∈ properties, e.2.Everywhere Q := by
  intro e he
  obtain ⟨e', he', _, hnode⟩ := exists_left_of_forall₂ (propertyNodes_eq_ok.1 h) he
  exact hn _ _ _ (hS _ (mem_parts_of_property he')) hnode

theorem keys_propertyNodes {properties : Dict Node}
    (h : (s.propertyNodes normalize location).result = .ok properties) :
    properties.keys = Dict.keys (s.properties.getD []) := by
  have hkeys : ∀ {as : List (String × RefOr Schema)} {bs : List (String × Node)},
      List.Forall₂ (fun e e' => e'.1 = e.1 ∧
        (normalize e.2 (locate location ["properties", e.1])).result = .ok e'.2) as bs →
      bs.map (·.1) = as.map (·.1) := by
    intro as bs h
    induction h with
    | nil => rfl
    | cons hhead _ ih => rw [List.map_cons, List.map_cons, ih, hhead.1]
  exact hkeys (propertyNodes_eq_ok.1 h)

theorem everywhere_additionalNode (hB : Building D Q) (hn : normalize.Builds S Q)
    (hS : ∀ place ∈ s.parts, S place) {properties : Dict Node} {additional : Option Node}
    (h : (s.additionalNode normalize location properties).result = .ok additional) :
    ∀ m ∈ additional, m.Everywhere Q := by
  intro m hm
  rcases additionalNode_eq_ok h m hm with rfl | rfl | ⟨place, hplace, hm⟩
  · exact hB.everywhere_ofType _
  · exact hB.everywhere_ofType _
  · refine hn _ _ _ (hS place ?_) hm
    unfold parts
    rw [hplace]
    simp only [List.mem_append, List.mem_singleton, or_true, true_or]

theorem everywhere_objectNode (hB : Building D Q) (hn : normalize.Builds S Q)
    (hS : ∀ place ∈ s.parts, S place) {properties : Dict Node} (hD : D properties)
    (hproperties : ∀ e ∈ properties, e.2.Everywhere Q)
    (h : (s.objectNode normalize location properties).result = .ok n) : n.Everywhere Q := by
  obtain ⟨additional, hadditional, rfl⟩ := objectNode_eq_ok.1 h
  exact hB.everywhere_object rfl rfl hD (nodup_eraseDups _) hproperties
    (everywhere_additionalNode hB hn hS hadditional)

theorem everywhere_listOf (hB : Building D Q) {item : Option Node}
    (hitem : ∀ m ∈ item, m.Everywhere Q) : (s.listOf item).Everywhere Q := by
  unfold listOf
  split
  · refine hB.everywhere_of_items rfl rfl rfl rfl fun m hm => ?_
    rw [(List.mem_replicate.1 hm).2]
    cases item with
    | none => exact hB.everywhere_ofType _
    | some m => exact hitem m rfl
  · exact hB.everywhere_of_items rfl rfl rfl rfl fun m hm => hitem m (Option.mem_toList.1 hm)

/-- The object that a schema declares. -/
theorem everywhere_declared (hB : Building D Q) (hn : normalize.Builds S Q)
    (hS : ∀ place ∈ s.parts, S place)
    (hD : ∀ properties : Dict Node, properties.keys = Dict.keys (s.properties.getD []) →
      D properties)
    (h : (s.bareNode normalize location .object).result = .ok n) : n.Everywhere Q := by
  obtain ⟨properties, hproperties, hobject⟩ := bareNode_object_eq_ok.1 h
  exact everywhere_objectNode hB hn hS (hD _ (keys_propertyNodes hproperties))
    (everywhere_propertyNodes hn hS hproperties) hobject

theorem everywhere_typeNode (hB : Building D Q) (hn : normalize.Builds S Q)
    (hS : ∀ place ∈ s.parts, S place)
    (hD : ∀ properties : Dict Node, properties.keys = Dict.keys (s.properties.getD []) →
      D properties) {type : SchemaType}
    (h : (s.typeNode normalize location type).result = .ok n) : n.Everywhere Q := by
  obtain ⟨m, hm, rfl⟩ := typeNode_eq_ok.1 h
  suffices hbare : m.Everywhere Q from hB.everywhere_same hbare rfl rfl rfl rfl
  cases type with
  | array =>
    rcases arrayNode_eq_ok.1 hm with ⟨_, rfl⟩ | ⟨place, item, hplace, hitem, rfl⟩
    · exact everywhere_listOf hB fun m hm => by cases hm
    · refine everywhere_listOf hB fun m hm => ?_
      cases hm
      refine hn _ _ _ (hS place ?_) hitem
      unfold parts
      rw [hplace]
      simp only [List.mem_append, Option.toList_some, List.mem_singleton, or_true, true_or]
  | object => exact everywhere_declared hB hn hS hD hm
  | _ => exact Report.pure_eq_ok.1 hm ▸ hB.everywhere_ofType _

/-- Null can be added. -/
theorem everywhere_append_null (hB : Building D Q) {nodes : List Node} {nullable : Bool}
    (h : ∀ m ∈ nodes, m.Everywhere Q) :
    ∀ m ∈ nodes ++ if nullable then [Node.ofType .null] else [], m.Everywhere Q := by
  intro m hm
  rcases List.mem_append.1 hm with hm | hm
  · exact h m hm
  · split at hm
    · exact List.mem_singleton.1 hm ▸ hB.everywhere_ofType _
    · cases hm

theorem everywhere_typed (hB : Building D Q) (hn : normalize.Builds S Q)
    (hS : ∀ place ∈ s.parts, S place)
    (hD : ∀ properties : Dict Node, properties.keys = Dict.keys (s.properties.getD []) →
      D properties)
    (h : (s.typed normalize location).result = .ok n) : n.Everywhere Q := by
  obtain ⟨nodes, hnodes, rfl⟩ := typed_eq_ok.1 h
  have hall : ∀ m ∈ nodes, m.Everywhere Q := by
    intro m hm
    obtain ⟨type, _, hnode⟩ := exists_left_of_forall₂ hnodes hm
    exact everywhere_typeNode hB hn hS hD hnode
  unfold typedOf
  split
  · exact hB.everywhere_of_items rfl rfl rfl rfl fun m hm => by cases hm
  · exact hB.everywhere_withDocs (hall _ List.mem_cons_self) _
  · exact hB.everywhere_dedupe_composition (everywhere_append_null hB hall)

theorem everywhere_allOfBranch (hB : Building D Q) (hn : normalize.Builds S Q)
    {component : Option String} {branch : RefOr Schema × Nat} (hS : S branch.1) {items : List Node}
    (h : (s.allOfBranch d normalize component location branch).result = .ok items) :
    ∀ m ∈ items, m.Everywhere Q := by
  obtain ⟨place, i⟩ := branch
  intro m hm
  cases place with
  | inline t =>
    obtain ⟨n, hnode, rfl⟩ := allOfBranch_inline_eq_ok.1 h
    rw [List.mem_singleton.1 hm]
    exact hB.everywhere_promote (hn _ _ _ hS hnode) s.required
  | ref r =>
    obtain ⟨n, tag, hnode, htag, rfl⟩ := allOfBranch_ref_eq_ok h
    rcases List.mem_cons.1 hm with rfl | hm
    · exact hn _ _ _ hS hnode
    · obtain ⟨property, value, required, rfl⟩ := htag m (Option.mem_toList.1 hm)
      exact hB.everywhere_tagged property value required

theorem everywhere_ownShape (hB : Building D Q) (hn : normalize.Builds S Q)
    (hS : ∀ place ∈ s.parts, S place)
    (hinherited : ∀ name found, d.inheritedProperty? s location name = some found →
      S found.property)
    (hD : ∀ properties : Dict Node, properties.keys = Dict.keys (s.properties.getD []) →
      D properties) {shape : List Node}
    (h : (s.ownShape d normalize location).result = .ok shape) : ∀ m ∈ shape, m.Everywhere Q := by
  intro m hm
  rcases ownShape_eq_ok.1 h with ⟨_, rfl⟩ | ⟨_, declared, properties, o, hdeclared, hproperties, ho,
    rfl⟩
  · cases hm
  · split at hm
    · cases hm
    · rw [List.mem_singleton.1 hm]
      -- What is taken over is set among the declared properties.
      have hall : D properties ∧ ∀ e ∈ properties, e.2.Everywhere Q := by
        refine takeOver_induction
          (P := fun properties => D properties ∧ ∀ e ∈ properties, e.2.Everywhere Q)
          ⟨hD _ (keys_propertyNodes hdeclared), everywhere_propertyNodes hn hS hdeclared⟩ ?_
          hproperties
        intro properties name found m hall hfound hm
        refine ⟨hB.insert _ _ _ hall.1, fun e he => ?_⟩
        rcases Dict.mem_insert he with he | rfl
        · exact hall.2 e he
        · exact hn _ _ _ (hinherited name found hfound) hm
      exact everywhere_objectNode hB hn hS hall.1 hall.2 ho

theorem everywhere_unionBranch (hB : Building D Q) (hn : normalize.Builds S Q) {kind : UnionKind}
    {branch : RefOr Schema × Nat} (hS : S branch.1) {members : List Node}
    (h : (s.unionBranch normalize kind location branch).result = .ok members) :
    ∀ m ∈ members, m.Everywhere Q := by
  obtain ⟨n, hnode, rfl⟩ := unionBranch_eq_ok.1 h
  have hnode : n.Everywhere Q := hn _ _ _ hS hnode
  have halternative : (s.alternative branch.1 n).Everywhere Q := by
    unfold alternative
    split
    · refine hB.everywhere_of_items rfl rfl rfl rfl fun m hm => ?_
      rcases List.mem_cons.1 hm with rfl | hm
      · exact hB.everywhere_tagged _ _ _
      · exact List.mem_singleton.1 hm ▸ hnode
    · exact hnode
  intro m hm
  unfold UnionKind.members at hm
  split at hm
  · exact halternative.item hm
  · exact List.mem_singleton.1 hm ▸ halternative

/-- What is true of the members that are found for each branch of a list is true of all members. -/
theorem everywhere_flatten {R : RefOr Schema × Nat → List Node → Prop}
    {branches : List (RefOr Schema)} {members : List (List Node)}
    (h : List.Forall₂ R branches.zipIdx members) (hS : ∀ place ∈ branches, S place)
    (hR : ∀ branch ms, S branch.1 → R branch ms → ∀ m ∈ ms, m.Everywhere Q) :
    ∀ m ∈ members.flatten, m.Everywhere Q := by
  intro m hm
  obtain ⟨ms, hms, hm⟩ := List.mem_flatten.1 hm
  obtain ⟨branch, hbranch, hR'⟩ := exists_left_of_forall₂ h hms
  refine hR branch ms (hS _ ?_) hR' m hm
  exact List.fst_mem_of_mem_zipIdx hbranch

theorem everywhere_union (hB : Building D Q) (hn : normalize.Builds S Q)
    (hS : ∀ place ∈ s.parts, S place)
    (hD : ∀ properties : Dict Node, properties.keys = Dict.keys (s.properties.getD []) →
      D properties) {kind : UnionKind} {branches : List (RefOr Schema)}
    (hbranches : ∀ place ∈ branches, S place)
    (h : (s.union normalize kind location branches).result = .ok n) : n.Everywhere Q := by
  have hunion : ∀ {members : List (List Node)},
      List.Forall₂ (fun branch ms =>
        (s.unionBranch normalize kind location branch).result = .ok ms) branches.zipIdx members →
      (s.unionOf members.flatten).Everywhere Q := fun hmembers =>
    hB.everywhere_dedupe_composition (everywhere_append_null hB
      (everywhere_flatten hmembers hbranches fun _ _ hplace hbranch =>
        everywhere_unionBranch hB hn hplace hbranch))
  by_cases hp : s.properties.getD [] = []
  · obtain ⟨members, hmembers, rfl⟩ := union_eq_ok_of_nil hp h
    exact hunion hmembers
  · obtain ⟨members, shape, hmembers, hshape, _, rfl⟩ := union_eq_ok_of_ne_nil hp h
    refine hB.everywhere_of_items rfl rfl rfl rfl fun m hm => ?_
    rcases List.mem_cons.1 hm with rfl | hm
    · exact hunion hmembers
    · exact List.mem_singleton.1 hm ▸ everywhere_declared hB hn hS hD hshape

theorem everywhere_normalizeLayer (hB : Building D Q) (hn : normalize.Builds S Q)
    (hS : ∀ place ∈ s.parts, S place)
    (hinherited : ∀ name found, d.inheritedProperty? s location name = some found →
      S found.property)
    (hD : ∀ properties : Dict Node, properties.keys = Dict.keys (s.properties.getD []) →
      D properties) {component : Option String}
    (h : (s.normalizeLayer d normalize component location).result = .ok n) : n.Everywhere Q := by
  unfold normalizeLayer at h
  split at h
  · exact everywhere_enumeration hB h
  · rename_i branches hform
    obtain ⟨items, shape, hitems, hshape, rfl⟩ := intersection_eq_ok.1 h
    have hbranches : ∀ place ∈ branches, S place :=
      fun place hplace => hS place (mem_parts_of_form (.inl hform) hplace)
    have hall : (s.intersectionOf (items.flatten ++ shape)).Everywhere Q := by
      refine hB.everywhere_dedupe_composition fun m hm => ?_
      rcases List.mem_append.1 hm with hm | hm
      · exact everywhere_flatten hitems hbranches
          (fun _ _ hplace hbranch => everywhere_allOfBranch hB hn hplace hbranch) m hm
      · exact everywhere_ownShape hB hn hS hinherited hD hshape m hm
    split
    · exact hB.everywhere_orNull hall
    · exact hall
  · rename_i branches hform
    exact everywhere_union hB hn hS hD
      (fun place hplace => hS place (mem_parts_of_form (.inr (.inl hform)) hplace)) h
  · rename_i branches hform
    exact everywhere_union hB hn hS hD
      (fun place hplace => hS place (mem_parts_of_form (.inr (.inr hform)) hplace)) h
  · exact everywhere_typed hB hn hS hD h
  · rw [← Report.pure_eq_ok.1 h]
    exact hB.everywhere_of_items rfl rfl rfl rfl fun m hm => by cases hm

end Schema

namespace Document

variable {d : Document} {S : RefOr Schema → Prop} {D : Dict Node → Prop} {Q : Node → Prop}

/-- A condition that the building of nodes keeps holds at every depth of what a schema becomes, if it
holds of the nodes of references. -/
theorem Normalizes.everywhere (hB : Node.Building D Q) (hS : d.Closed S)
    (hD : ∀ s (properties : Dict Node), S (.inline s) →
      properties.keys = Dict.keys (s.properties.getD []) → D properties)
    (hreference : ∀ r s, d.resolve Schema r = .ok s → Q (.ofReference r.normalized))
    {component : Option String} {place : RefOr Schema} {location : String} {n : Node}
    (hplace : S place) (h : d.Normalizes component place location n) : n.Everywhere Q := by
  have href : ∀ {r component location n}, d.Normalizes component (.ref r) location n →
      n.Everywhere Q := by
    intro r component location n h
    obtain ⟨⟨s, hs⟩, rfl⟩ := normalizes_ref_iff.1 h
    exact Node.everywhere_iff.2 ⟨hreference r s hs, fun c hc => by cases hc⟩
  obtain ⟨steps, h⟩ := h
  induction steps generalizing component place location n with
  | zero =>
    cases place with
    | ref r => exact href ⟨0, h⟩
    | inline s =>
      rw [normalizeWithin] at h
      exact absurd h Report.fail_ne_ok
  | succ steps ih =>
    cases place with
    | ref r => exact href ⟨steps + 1, h⟩
    | inline s =>
      rw [normalizeWithin] at h
      exact Schema.everywhere_normalizeLayer hB (fun _ _ _ hplace hn => ih hplace hn)
        (hS.part s hplace) (fun name found => hS.inherited s location name found hplace)
        (fun properties => hD s properties hplace) h

end Document

end ApiShape
