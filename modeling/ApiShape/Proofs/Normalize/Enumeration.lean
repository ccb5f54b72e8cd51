import ApiShape.Normalize.Schema
import ApiShape.Proofs.Report

/-!
# The literals of an enum

The items of a normalized enum correspond one to one to those of the enum's values that can be
literals. Lists and objects among the values are skipped and recorded. The names and descriptions of
values go by their positions in the whole list, so what is skipped does not shift them.
-/

namespace ApiShape

/-- The value is a list or an object. -/
def Json.IsContainer : Json → Prop
  | .array _ | .object _ => True
  | _ => False

instance : DecidablePred Json.IsContainer
  | .array _ | .object _ => isTrue trivial
  | .null | .bool _ | .number _ | .string _ => isFalse id

/-- The diagnostic about a value of an enum that is skipped. -/
def Diagnostic.ofSkipped (location : String) (v : Json) : Diagnostic where
  kind := .unsupportedEnumValueType
  message := "skipping enum value `" ++ v.text ++
    "`; only strings, numbers, booleans, and `null` are supported"
  location := location

/-- The node type of the values of a kind that can be literals. -/
inductive Json.OfType : Json → NodeType → Prop
  | string (text) : OfType (.string text) .string
  | number (n) : OfType (.number n) .number
  | boolean (b) : OfType (.bool b) .boolean
  | null : OfType .null .null

namespace Schema

variable {s : Schema}

/-- The value can be a literal of the schema's enum. -/
def Admits (s : Schema) : Json → Prop
  | .string _ | .number _ | .bool _ => True
  | .null => s.isNullable = true
  | .array _ | .object _ => False

instance (s : Schema) : DecidablePred s.Admits
  | .string _ | .number _ | .bool _ => isTrue trivial
  | .null => inferInstanceAs (Decidable (s.isNullable = true))
  | .array _ | .object _ => isFalse id

/-- The field holds a list with the text at the position. -/
def ListsText (s : Schema) (field : String) (i : Nat) (text : String) : Prop :=
  ∃ items, s.extension? field = some (.array items) ∧ items[i]? = some (.string text)

/-- The item stands for the value at a position of the enum. -/
structure LiteralFor (s : Schema) (value : Json × Nat) (item : Node) : Prop where
  const : item.const = some value.1
  type : ∃ type, item.type = some type ∧ value.1.OfType type
  title : ∀ text, item.docs.title = some text ↔
    s.ListsText "x-enum-varnames" value.2 text ∨
      (∀ other, ¬ s.ListsText "x-enum-varnames" value.2 other) ∧
        s.ListsText "x-enumNames" value.2 text
  description : ∀ text, item.docs.description = some text ↔
    s.ListsText "x-enum-descriptions" value.2 text

/-- The values that are skipped and recorded, with the locations where they lie. -/
def skipped (location : String) (values : List (Json × Nat)) : List Diagnostic :=
  (values.filter (·.1.IsContainer)).map fun (value, i) =>
    .ofSkipped (locate location ["enum", toString i]) value

/-! ## Names and types -/

theorem listedString?_eq_some_iff {field : String} {i : Nat} {text : String} :
    s.listedString? field i = some text ↔ s.ListsText field i text := by
  unfold listedString? ListsText
  simp only [Option.bind_eq_bind, Option.bind_eq_some_iff]
  constructor
  · rintro ⟨v, hv, items, hlist, item, hitem, htext⟩
    cases v <;> cases hlist
    cases item <;> cases htext
    exact ⟨items, hv, hitem⟩
  · rintro ⟨items, hitems, hitem⟩
    exact ⟨_, hitems, items, rfl, _, hitem, rfl⟩

theorem ofType_of_literalType? {nullable : Bool} {value : Json} {type : NodeType}
    (h : literalType? nullable value = some type) : value.OfType type := by
  cases value with
  | null => cases nullable <;> cases h; exact .null
  | bool b => cases h; exact .boolean b
  | number n => cases h; exact .number n
  | string text => cases h; exact .string text
  | array _ => cases h
  | object _ => cases h

theorem literalFor_literal {i : Nat} {value : Json} {type : NodeType}
    (h : literalType? s.isNullable value = some type) :
    s.LiteralFor (value, i) (s.literal i type value) where
  const := rfl
  type := ⟨type, rfl, ofType_of_literalType? h⟩
  title text := by
    have hnone : s.listedString? "x-enum-varnames" i = none ↔
        ∀ other, ¬ s.ListsText "x-enum-varnames" i other := by
      simp only [Option.eq_none_iff_forall_ne_some, ne_eq, listedString?_eq_some_iff]
    simp only [literal, Option.orElse_eq_orElse, Option.orElse_eq_or, Option.or_eq_some_iff,
      listedString?_eq_some_iff, hnone]
  description _ := listedString?_eq_some_iff

/-! ## Lists of values -/

/-- The item for a value at a position, if the value can be a literal. -/
def literalAt? (s : Schema) (value : Json × Nat) : Option Node :=
  (literalType? s.isNullable value.1).map (s.literal value.2 · value.1)

theorem literalType?_isSome_iff {value : Json} :
    (literalType? s.isNullable value).isSome ↔ s.Admits value := by
  cases value with
  | null => cases h : s.isNullable <;> simp [literalType?, Admits, h]
  | _ => simp [literalType?, Admits]

theorem literals_eq {ε : Type} (s : Schema) (location : String) (i : Nat) (values : List Json) :
    (s.literals location i values : Report ε (List Node)) =
      ⟨skipped location (values.zipIdx i), .ok ((values.zipIdx i).filterMap s.literalAt?)⟩ := by
  induction values generalizing i with
  | nil => rfl
  | cons value rest ih =>
    unfold literals
    rw [ih (i + 1), List.zipIdx_cons, List.filterMap_cons, literalAt?]
    -- A value gives an item, or a diagnostic, or nothing if it is null.
    cases value with
    | null =>
      cases h : s.isNullable with
      | false => rfl
      | true => exact congrArg (Report.mk · _) (List.append_nil _)
    | bool _ => exact congrArg (Report.mk · _) (List.append_nil _)
    | number _ => exact congrArg (Report.mk · _) (List.append_nil _)
    | string _ => exact congrArg (Report.mk · _) (List.append_nil _)
    | array _ => rfl
    | object _ => rfl

theorem mem_skipped {location : String} {values : List (Json × Nat)} {x : Diagnostic} :
    x ∈ skipped location values ↔ ∃ v i, (v, i) ∈ values ∧ v.IsContainer ∧
      .ofSkipped (locate location ["enum", toString i]) v = x := by
  simp only [skipped, List.mem_map, List.mem_filter, decide_eq_true_iff, Prod.exists, and_assoc]

theorem forall₂_literalFor (s : Schema) (values : List (Json × Nat)) :
    List.Forall₂ s.LiteralFor (values.filter (s.Admits ·.1)) (values.filterMap s.literalAt?) := by
  refine forall₂_filter_filterMap (fun value => ?_) (fun value item h => ?_) values
  · rw [literalAt?, Option.isSome_map, Bool.eq_iff_iff, literalType?_isSome_iff, decide_eq_true_iff]
  · obtain ⟨type, htype, rfl⟩ := Option.map_eq_some_iff.1 h
    exact literalFor_literal htype

end Schema

namespace Document

/-- A schema with an enum becomes the union of its literals, one for each value that it admits, and what
is said about the lists and objects among the values is all that is recorded. -/
theorem normalize_enum {s : Schema} {values : List Json} (h : s.enum = some values)
    (location : String) :
    ∃ items, List.Forall₂ s.LiteralFor (values.zipIdx.filter (s.Admits ·.1)) items ∧
      ∀ d : Document,
        let r : Report NormalizeError Node := ⟨Schema.skipped location values.zipIdx,
          .ok { type := some .enum, operator := some .or, items, docs := s.docs }⟩
        (∀ steps component, d.normalizeWithin (steps + 1) component (.inline s) location = r) ∧
          d.normalizeSchema (.inline s) location = r ∧
          ∀ name, d.normalizeComponent name (.inline s) location = r := by
  refine ⟨_, s.forall₂_literalFor values.zipIdx, fun d => ?_⟩
  intro r
  have hwithin : ∀ steps component,
      d.normalizeWithin (steps + 1) component (.inline s) location = r := by
    intro steps component
    rw [normalizeWithin, Schema.normalizeLayer, Schema.form, h]
    dsimp only
    rw [Schema.enumeration, Schema.literals_eq]
    exact congrArg (Report.mk · _) (List.append_nil _)
  -- The schema itself is one of those that are counted, so there is a step.
  obtain ⟨steps, hsteps⟩ : ∃ steps, d.stepsFor (.inline s) = steps + 1 := by
    obtain ⟨c⟩ := s
    exact ⟨_, Nat.succ_add _ _⟩
  refine ⟨hwithin, ?_, fun name => ?_⟩
  · rw [normalizeSchema, hsteps]
    exact hwithin steps none
  · rw [normalizeComponent, hsteps]
    exact hwithin steps (some name)

/-- A size, which may be null; the value after the first is a list. -/
def sizeSchema : Schema where
  types := [.string]
  nullable := true
  enum := some [.string "S", .array [], .null, .string "L"]
  extensions := [("x-enum-varnames", .array [.string "Small", .null, .null, .string "Large"])]

theorem normalize_enum_size :
    ∃ values, sizeSchema.enum = some values ∧
      (values.zipIdx.filter (sizeSchema.Admits ·.1)).map (·.2) = [0, 2, 3] ∧
      (Schema.skipped "#/definitions/Size" values.zipIdx).map (·.location) =
        ["#/definitions/Size/enum/1"] ∧
      ∃ items, List.Forall₂ sizeSchema.LiteralFor
          (values.zipIdx.filter (sizeSchema.Admits ·.1)) items ∧
        ∀ d : Document, (d.normalizeSchema (.inline sizeSchema) "#/definitions/Size").result =
          .ok { type := some .enum, operator := some .or, items, docs := sizeSchema.docs } := by
  obtain ⟨items, hitems, hruns⟩ := normalize_enum (s := sizeSchema) rfl "#/definitions/Size"
  refine ⟨_, rfl, by decide, by decide +kernel, items, hitems, fun d => ?_⟩
  rw [(hruns d).2.1]

end Document

end ApiShape
