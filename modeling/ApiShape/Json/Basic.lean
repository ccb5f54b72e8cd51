import ApiShape.Dict
import ApiShape.Number.Basic

/-!
# JSON values

An object keeps the order of its fields, but its order does not count when values are compared.
-/

namespace ApiShape

/-- A JSON value. -/
inductive Json where
  | null
  | bool (b : Bool)
  | number (n : Number)
  | string (s : String)
  | array (items : List Json)
  | object (fields : List (String × Json))
  deriving Repr, Inhabited

namespace Json

mutual

/-- Equality of values: arrays item by item, objects field by field in any order. -/
def equal : Json → Json → Bool
  | .null, .null => true
  | .bool a, .bool b => a == b
  | .number a, .number b => a == b
  | .string a, .string b => a == b
  | .array as, .array bs => equalItems as bs
  | .object as, .object bs => as.length == bs.length && equalFields as bs
  | _, _ => false

/-- The lists are equally long, and equal item by item. -/
def equalItems : List Json → List Json → Bool
  | [], [] => true
  | a :: as, b :: bs => equal a b && equalItems as bs
  | _, _ => false

/-- Every field has an equal field of its name in the other object. -/
def equalFields : List (String × Json) → List (String × Json) → Bool
  | [], _ => true
  | (k, a) :: as, bs =>
    (match Dict.get? bs k with
      | some b => equal a b
      | none => false) && equalFields as bs

end

instance : BEq Json := ⟨equal⟩

/-- The value as a string. -/
def string? : Json → Option String
  | .string s => some s
  | _ => none

/-- The value as a truth value. -/
def bool? : Json → Option Bool
  | .bool b => some b
  | _ => none

/-- The value as an array. -/
def array? : Json → Option (List Json)
  | .array items => some items
  | _ => none

/-- The value as an object. -/
def object? : Json → Option (Dict Json)
  | .object fields => some fields
  | _ => none

/-- The field of an object. -/
def field? (j : Json) (name : String) : Option Json :=
  j.object?.bind (·.get? name)

end Json

end ApiShape
