import ApiShape.Proofs.Normalize.Normal

/-!
# Normalized nodes are well formed

Which fields of a node go together. It is read off the grammar of normal nodes, case by case.
-/

namespace ApiShape

/-- What holds of the fields of every normalized node. -/
structure Node.WellFormed (n : Node) : Prop where
  /-- Required names are names of properties. -/
  required : n.required ⊆ Dict.keys n.properties
  /-- A reference carries documentation without a default, and nothing else. -/
  reference : n.reference.isSome = true →
    n = { reference := n.reference, docs := n.docs } ∧ n.docs.default = none
  /-- Properties belong to objects. -/
  object : n.type ≠ some .object → n.properties = [] ∧ n.required = [] ∧ n.additional = none
  /-- A composition has its items and documentation only. If it has a type, it is an enum, the union
  of literals. -/
  composition : ∀ operator, n.operator = some operator →
    n.const = none ∧ n.constraints = {} ∧ n.properties = [] ∧ n.additional = none ∧
      (n.type = none ∨
        n.type = some .enum ∧ operator = .or ∧ ∀ m ∈ n.items, m.IsLiteral)
  /-- Besides compositions, arrays and tuples have items. -/
  items : n.operator = none → n.items ≠ [] →
    (n.type = some .array ∧ n.items.length = 1) ∨ n.type = some .tuple
  /-- A tuple repeats one item as often as its validation keywords say. -/
  tuple : n.type = some .tuple → ∃ length item,
    n.items = List.replicate length item ∧ 1 ≤ length ∧ length ≤ 256 ∧
      n.constraints.minItems = some length ∧ n.constraints.maxItems = some length

namespace Node

variable {Shaped : Node → Node → Prop} {n : Node}

theorem Normal.required_subset (h : n.Normal Shaped) : n.required ⊆ Dict.keys n.properties := by
  cases h with
  | object properties required additional const docs constraints hrequired =>
    exact fun name hname => Dict.mem_keys_of_has (hrequired name hname)
  | _ => exact List.nil_subset _

theorem Normal.eq_of_reference (h : n.Normal Shaped) (hr : n.reference.isSome = true) :
    n = { reference := n.reference, docs := n.docs } ∧ n.docs.default = none := by
  cases h with
  | reference r docs hdocs => exact ⟨rfl, hdocs⟩
  | _ => cases hr

theorem Normal.fields_of_type_ne_object (h : n.Normal Shaped) (ht : n.type ≠ some .object) :
    n.properties = [] ∧ n.required = [] ∧ n.additional = none := by
  cases h with
  | object => exact absurd rfl ht
  | _ => exact ⟨rfl, rfl, rfl⟩

theorem Normal.fields_of_operator {operator : Operator} (h : n.Normal Shaped)
    (ho : n.operator = some operator) :
    n.const = none ∧ n.constraints = {} ∧ n.properties = [] ∧ n.additional = none ∧
      (n.type = none ∨ n.type = some .enum ∧ operator = .or ∧ ∀ m ∈ n.items, m.IsLiteral) := by
  cases h with
  | enum items docs hitems =>
    exact ⟨rfl, rfl, rfl, rfl, .inr ⟨rfl, (Option.some.inj ho).symm, hitems⟩⟩
  | composition | shaped => exact ⟨rfl, rfl, rfl, rfl, .inl rfl⟩
  | _ => cases ho

theorem Normal.type_of_items_ne_nil (h : n.Normal Shaped) (ho : n.operator = none) (hi : n.items ≠ []) :
    (n.type = some .array ∧ n.items.length = 1) ∨ n.type = some .tuple := by
  cases h with
  | array item =>
    cases item with
    | none => exact absurd rfl hi
    | some m => exact .inl ⟨rfl, rfl⟩
  | tuple => exact .inr rfl
  | enum | composition | shaped => cases ho
  | _ => exact absurd rfl hi

theorem Normal.items_of_tuple (h : n.Normal Shaped) (ht : n.type = some .tuple) :
    ∃ length item, n.items = List.replicate length item ∧ 1 ≤ length ∧ length ≤ 256 ∧
      n.constraints.minItems = some length ∧ n.constraints.maxItems = some length := by
  cases h with
  | tuple length item const docs constraints hlength hmin hmax =>
    exact ⟨length, item, rfl, hlength.1, hlength.2, hmin, hmax⟩
  | plain type const docs constraints htype =>
    rw [Option.some.inj ht] at htype
    cases htype
  | _ => cases ht

theorem Normal.wellFormed (h : n.Normal Shaped) : n.WellFormed where
  required := h.required_subset
  reference := h.eq_of_reference
  object := h.fields_of_type_ne_object
  composition _ := h.fields_of_operator
  items := h.type_of_items_ne_nil
  tuple := h.items_of_tuple

end Node

namespace Document

/-- Every node at any depth of a normalized document is well formed. -/
theorem wellFormed_of_mem_nested {d : Document} {config : Config} {r : Normalized}
    (h : d.normalize config = .ok r) : ∀ n ∈ r.model.nested, n.WellFormed :=
  fun n hn => (normal_of_mem_nested h n hn).wellFormed

/-- A pet that requires a property which it does not declare, and a pair of numbers. -/
def petsDocument : Document :=
  { components := some {
      schemas := [
        ("Pet", .inline {
          types := [.object]
          properties := some [("name", .inline { types := [.string] })]
          required := ["name", "age"] }),
        ("Pair", .inline {
          types := [.array]
          items := some (.inline { types := [.number] })
          minItems := some 2
          maxItems := some 2 })] } }

/-- What becomes of the pet and the pair. -/
def petsModel : Model :=
  { schemas := [
      ("Pet", {
        type := some .object
        properties := [("name", .ofType .string)]
        required := ["name"] }),
      ("Pair", {
        type := some .tuple
        items := [.ofType .number, .ofType .number]
        constraints := { minItems := some 2, maxItems := some 2 } })] }

theorem wellFormed_petsModel :
    petsDocument.normalize {} = .ok ⟨petsModel, []⟩ ∧ ∀ n ∈ petsModel.nested, n.WellFormed := by
  have h : petsDocument.normalize {} = .ok ⟨petsModel, []⟩ := rfl
  exact ⟨h, wellFormed_of_mem_nested h⟩

end Document

end ApiShape
