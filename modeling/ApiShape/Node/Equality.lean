import ApiShape.Node.Basic

/-!
# Equality of nodes

Two nodes are equal if all their fields are, where the order of properties and of required names
does not count. They are structurally equal if they are equal apart from documentation, their own
and that of every node inside them.
-/

namespace ApiShape.Node

/-- The lists hold the same names, in any order. Both hold every name once. -/
def sameNames (a b : List String) : Bool :=
  a.length == b.length && a.all b.contains

mutual

/-- Equality of all fields. -/
def equal : Node → Node → Bool
  | ⟨reference, type, items, operator, properties, required, additional, const, docs, constraints⟩,
    m =>
    reference == m.reference && type == m.type && equalItems items m.items &&
      operator == m.operator &&
      (properties.length == m.properties.length && equalProperties properties m.properties) &&
      sameNames required m.required && equalOption additional m.additional &&
      const == m.const && docs == m.docs && constraints == m.constraints

/-- The lists are equally long, and equal item by item. -/
def equalItems : List Node → List Node → Bool
  | [], [] => true
  | n :: ns, m :: ms => equal n m && equalItems ns ms
  | _, _ => false

/-- Every property has an equal property of its name among the others. -/
def equalProperties : List (String × Node) → List (String × Node) → Bool
  | [], _ => true
  | (name, n) :: ns, ms =>
    (match Dict.get? ms name with
      | some m => equal n m
      | none => false) && equalProperties ns ms

/-- Both are absent, or both are there and equal. -/
def equalOption : Option Node → Option Node → Bool
  | none, none => true
  | some n, some m => equal n m
  | _, _ => false

end

instance : BEq Node := ⟨equal⟩

mutual

/-- Equality of all fields but documentation, at every level. -/
def structurallyEq : Node → Node → Bool
  | ⟨reference, type, items, operator, properties, required, additional, const, _, constraints⟩,
    m =>
    reference == m.reference && type == m.type && operator == m.operator && const == m.const &&
      constraints == m.constraints && sameNames required m.required &&
      structurallyEqItems items m.items &&
      (properties.length == m.properties.length &&
        structurallyEqProperties properties m.properties) &&
      structurallyEqOption additional m.additional

/-- The lists are equally long, and structurally equal item by item. -/
def structurallyEqItems : List Node → List Node → Bool
  | [], [] => true
  | n :: ns, m :: ms => structurallyEq n m && structurallyEqItems ns ms
  | _, _ => false

/-- Every property has a structurally equal property of its name among the others. -/
def structurallyEqProperties : List (String × Node) → List (String × Node) → Bool
  | [], _ => true
  | (name, n) :: ns, ms =>
    (match Dict.get? ms name with
      | some m => structurallyEq n m
      | none => false) && structurallyEqProperties ns ms

/-- Both are absent, or both are there and structurally equal. -/
def structurallyEqOption : Option Node → Option Node → Bool
  | none, none => true
  | some n, some m => structurallyEq n m
  | _, _ => false

end

end ApiShape.Node
