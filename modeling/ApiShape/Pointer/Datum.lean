import ApiShape.Json.Pointee

/-!
# Typed data

Data whose shape is fixed by a type: numbers of a width, texts, optional values, lists and maps.
Pointers follow it by its type, and a part that is found names the type it has there.
-/

namespace ApiShape

/-- The order in which a map goes through its keys. -/
inductive KeyOrder where
  | sorted
  | hashed
  | inserted
  deriving DecidableEq, Repr

/-- The type of data. -/
inductive Shape where
  | i32
  | i64
  | u32
  | u64
  | usize
  | f64
  | bool
  | text
  | optional (item : Shape)
  /-- A value behind an indirection that pointers do not see. -/
  | boxed (item : Shape)
  | list (item : Shape)
  | map (order : KeyOrder) (item : Shape)
  | untyped
  deriving DecidableEq, Repr

/-- The least and the greatest integer of a type of integers. -/
def Shape.bounds? : Shape → Option (Int × Int)
  | .i32 => some (-(Nat.pow 2 31), Nat.pow 2 31 - 1)
  | .i64 => some (-(Nat.pow 2 63), Nat.pow 2 63 - 1)
  | .u32 => some (0, Nat.pow 2 32 - 1)
  | .u64 | .usize => some (0, Nat.pow 2 64 - 1)
  | _ => none

/-- Data. What could have parts carries the type of the parts. -/
inductive Datum where
  | number (shape : Shape) (n : Number)
  | bool (b : Bool)
  | text (s : String)
  | optional (item : Shape) (value : Option Datum)
  | list (item : Shape) (items : List Datum)
  | map (order : KeyOrder) (item : Shape) (entries : List (String × Datum))
  | untyped (j : Json)

namespace Datum

/-- Entries in the order of a map; a map without an order keeps the one it is given in. -/
def arrange (order : KeyOrder) (entries : Dict Datum) : Dict Datum :=
  match order with
  | .sorted => entries.mergeSort fun a b => a.1 ≤ b.1
  | .hashed | .inserted => entries

/-- A number of a type: an integer within its bounds, or a floating-point number. -/
def ofNumber? (shape : Shape) (n : Number) : Option Datum :=
  match shape.bounds?, n with
  | some (least, greatest), .int i =>
    if least ≤ i ∧ i ≤ greatest then some (.number shape n) else none
  | none, n => if shape = .f64 then n.toFloat?.map fun x => .number .f64 (.float x) else none
  | _, _ => none

/-- The data of a type that a JSON value stands for. -/
def ofJson? : Shape → Json → Option Datum
  | .bool, .bool b => some (.bool b)
  | .text, .string s => some (.text s)
  | .optional item, .null => some (.optional item none)
  | .optional item, j => (ofJson? item j).map fun d => .optional item (some d)
  | .boxed item, j => ofJson? item j
  | .list item, .array items => (items.mapM (ofJson? item)).map (.list item)
  | .map order item, .object fields =>
    (fields.mapM fun (e : String × Json) => (ofJson? item e.2).map (e.1, ·)).map fun entries =>
      .map order item (arrange order entries)
  | .untyped, j => some (.untyped j)
  | shape, .number n => ofNumber? shape n
  | _, _ => none

mutual

/-- The JSON value of data. -/
def json : Datum → Json
  | .number _ n => .number n
  | .bool b => .bool b
  | .text s => .string s
  | .optional _ none => .null
  | .optional _ (some d) => json d
  | .list _ items => .array (jsonItems items)
  | .map _ _ entries => .object (jsonEntries entries)
  | .untyped j => j

/-- The JSON values of items. -/
def jsonItems : List Datum → List Json
  | [] => []
  | d :: rest => json d :: jsonItems rest

/-- The JSON values of entries. -/
def jsonEntries : List (String × Datum) → List (String × Json)
  | [] => []
  | (k, d) :: rest => (k, json d) :: jsonEntries rest

end

/-- The type that data shows. What is there of an optional value is the value itself. -/
def shape : Datum → Shape
  | .number s _ => s
  | .bool _ => .bool
  | .text _ => .text
  | .optional item none => .optional item
  | .optional _ (some d) => d.shape
  | .list item _ => .list item
  | .map order item _ => .map order item
  | .untyped _ => .untyped

/-- The name that errors give to the type of a number. -/
def numberKind : Shape → String
  | .i32 => "i32"
  | .i64 => "i64"
  | .u32 => "u32"
  | .u64 => "u64"
  | .usize => "usize"
  | _ => "f64"

/-- How data looks to a pointer. -/
def view : Datum → View Datum
  | .number s _ => .leaf (numberKind s)
  | .bool _ => .leaf "bool"
  | .text _ => .leaf "String"
  | .optional _ none => .absent
  | .optional _ (some d) => d.view
  | .list _ items => .indexed items
  | .map _ _ entries => .keyed entries
  | .untyped j =>
    match Pointee.view j with
    | .keyed fields => .keyed (fields.map fun (k, v) => (k, .untyped v))
    | .indexed items => .indexed (items.map .untyped)
    | .leaf kind => .leaf kind
    | .absent => .absent

instance : Pointee Datum := ⟨view⟩

end Datum

end ApiShape
