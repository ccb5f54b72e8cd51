import ApiShape.Proofs.Dict
import ApiShape.Proofs.Source.Intact
import ApiShape.Source.JsonText
import Mathlib.Data.List.Nodup

/-!
# Sources and JSON values

A JSON text, if it can be read as a JSON value at all, says that value; of a repeated key the last
value counts. A JSON value is itself a source, and a text without repeated keys says nothing but its
value: its source is that of the value.
-/

namespace ApiShape

/-! ## The source of a value -/

namespace Json

mutual

/-- The value as a source. -/
def source : Json → Source
  | .null => .leaf (.plain .null)
  | .bool b => .leaf (.plain (.bool b))
  | .number n => .leaf (.plain (.number n))
  | .string s => .leaf (.ofString s)
  | .array items => .list true (sourceItems items)
  | .object fields => .mapping (sourceFields fields)

/-- Items as sources. -/
def sourceItems : List Json → List Source
  | [] => []
  | v :: rest => source v :: sourceItems rest

/-- Fields as entries of a source. -/
def sourceFields : List (String × Json) → List (Leaf × Source)
  | [] => []
  | (name, v) :: rest => (.ofString name, source v) :: sourceFields rest

end

theorem sourceItems_eq_map (items : List Json) : sourceItems items = items.map source := by
  induction items with
  | nil => rfl
  | cons v rest ih => rw [sourceItems, ih, List.map_cons]

theorem sourceFields_eq_map (fields : List (String × Json)) :
    sourceFields fields = fields.map fun e => (.ofString e.1, e.2.source) := by
  induction fields with
  | nil => rfl
  | cons e rest ih => rw [sourceFields, ih, List.map_cons]

end Json

/-! ## What JSON text can say -/

namespace Source

/-- The source is such as JSON text gives it: a scalar has one of the types of JSON, and the keys are
strings. -/
inductive IsJson : Source → Prop where
  | null : IsJson (.leaf (.plain .null))
  | bool (b : Bool) : IsJson (.leaf (.plain (.bool b)))
  | number (n : Number) : IsJson (.leaf (.plain (.number n)))
  | string (s : String) : IsJson (.leaf (.ofString s))
  | list {items : List Source} (hitems : ∀ s ∈ items, IsJson s) : IsJson (.list true items)
  | mapping {entries : List (Leaf × Source)} (hkeys : ∀ e ∈ entries, ∃ name, e.1 = .ofString name)
      (hvalues : ∀ e ∈ entries, IsJson e.2) : IsJson (.mapping entries)
  | unreadable : IsJson .unreadable
  | broken : IsJson .broken

namespace JsonText

section Containers

variable {read : List Char → Outcome Source} (hread : ∀ cs, (read cs).1.IsJson)

include hread

end Containers

end JsonText

mutual

/-- No mapping in the source has a key twice. -/
def distinctKeys : Source → Bool
  | .list _ items => distinctKeysItems items
  | .mapping entries =>
    decide (entries.map fun e => e.1.written).Nodup && distinctKeysEntries entries
  | .leaf _ | .unreadable | .broken => true

/-- No mapping in the items has a key twice. -/
def distinctKeysItems : List Source → Bool
  | [] => true
  | s :: rest => distinctKeys s && distinctKeysItems rest

/-- No mapping in the values has a key twice. -/
def distinctKeysEntries : List (Leaf × Source) → Bool
  | [] => true
  | (_, s) :: rest => distinctKeys s && distinctKeysEntries rest

end

theorem distinctKeysItems_iff {items : List Source} :
    distinctKeysItems items = true ↔ ∀ s ∈ items, s.distinctKeys = true := by
  induction items with
  | nil => simp [distinctKeysItems]
  | cons s rest ih => simp [distinctKeysItems, ih]

theorem distinctKeysEntries_iff {entries : List (Leaf × Source)} :
    distinctKeysEntries entries = true ↔ ∀ e ∈ entries, e.2.distinctKeys = true := by
  induction entries with
  | nil => simp [distinctKeysEntries]
  | cons e rest ih =>
    obtain ⟨k, s⟩ := e
    simp [distinctKeysEntries, ih]

theorem distinctKeys_mapping_iff {entries : List (Leaf × Source)} :
    distinctKeys (.mapping entries) = true ↔
      (entries.map fun e => e.1.written).Nodup ∧ ∀ e ∈ entries, e.2.distinctKeys = true := by
  rw [distinctKeys, Bool.and_eq_true, decide_eq_true_iff, distinctKeysEntries_iff]

theorem distinctKeys_array_iff {items : List Json} :
    (Json.array items).source.distinctKeys = true ↔
      ∀ v ∈ items, v.source.distinctKeys = true := by
  rw [Json.source, distinctKeys, distinctKeysItems_iff, Json.sourceItems_eq_map,
    List.forall_mem_map]

theorem distinctKeys_object_iff {fields : Dict Json} :
    (Json.object fields).source.distinctKeys = true ↔
      Dict.Distinct fields ∧ ∀ e ∈ fields, e.2.source.distinctKeys = true := by
  -- The key of an entry is the name of a field, which is always there.
  have hkeys : ((Json.sourceFields fields).map fun e => e.1.written).Nodup ↔
      Dict.Distinct fields := by
    have hnodup : (fields.keys.map some).Nodup ↔ fields.keys.Nodup :=
      List.nodup_map_iff fun _ _ => Option.some.inj
    rw [Json.sourceFields_eq_map, List.map_map, Dict.Distinct, ← hnodup, Dict.keys, List.map_map]
    rfl
  rw [Json.source, distinctKeys_mapping_iff, hkeys, Json.sourceFields_eq_map, List.forall_mem_map]

/-! ## What a source states -/

/-- The mapping that has the parts as its entries. -/
def ofParts (parts : Dict (Source × Json)) : Source :=
  .mapping (parts.map fun e => (.ofString e.1, e.2.1))

end Source

/-- The object of the values of parts. Of a repeated key the last value stays. -/
def Json.ofParts (parts : Dict (Source × Json)) : Json :=
  .object (Dict.ofList (parts.map fun e => (e.1, e.2.2)))

namespace Source

/-- The source states the value, as JSON text does: of a repeated key the last value counts. If `once`
holds, no key is repeated. -/
inductive States (once : Prop) : Source → Json → Prop where
  | null : States once (.leaf (.plain .null)) .null
  | bool (b : Bool) : States once (.leaf (.plain (.bool b))) (.bool b)
  | number (n : Number) : States once (.leaf (.plain (.number n))) (.number n)
  | string (s : String) : States once (.leaf (.ofString s)) (.string s)
  | list {parts : List (Source × Json)} (hparts : ∀ p ∈ parts, States once p.1 p.2) :
      States once (.list true (parts.map (·.1))) (.array (parts.map (·.2)))
  | mapping {parts : Dict (Source × Json)} (hdistinct : once → parts.Distinct)
      (hparts : ∀ e ∈ parts, States once e.2.1 e.2.2) : States once (ofParts parts) (Json.ofParts parts)

open Reader (bind_eq_ok)

variable {once : Prop} {s : Source} {v : Json}

theorem jsonItems_map_fst {parts : List (Source × Json)} (h : ∀ p ∈ parts, p.1.json = .ok p.2) :
    jsonItems (parts.map (·.1)) = .ok (parts.map (·.2)) := by
  induction parts with
  | nil => rfl
  | cons p rest ih =>
    rw [List.forall_mem_cons] at h
    rw [List.map_cons, jsonItems, h.1, ih h.2]
    rfl

theorem jsonEntries_ofParts {parts : Dict (Source × Json)}
    (h : ∀ e ∈ parts, e.2.1.json = .ok e.2.2) :
    jsonEntries (parts.map fun e => (.ofString e.1, e.2.1)) =
      .ok (parts.map fun e => (e.1, e.2.2)) := by
  induction parts with
  | nil => rfl
  | cons e rest ih =>
    rw [List.forall_mem_cons] at h
    change (do return (e.1, ← e.2.1.json) :: (← jsonEntries _)) = Except.ok _
    rw [h.1, ih h.2]
    rfl

/-- What a source states is its JSON value. -/
theorem States.json (h : States once s v) : s.json = .ok v := by
  induction h with
  | null | bool _ | number _ | string _ => rfl
  | list _ ih =>
    rw [Source.json, jsonItems_map_fst ih]
    rfl
  | mapping _ _ ih =>
    rw [ofParts, Source.json, jsonEntries_ofParts ih]
    rfl

theorem settleItems_eq_ok {items : List Source} (h : ∀ s ∈ items, s.settle = .ok s) :
    settleItems items = .ok items := by
  induction items with
  | nil => rfl
  | cons s rest ih =>
    rw [List.forall_mem_cons] at h
    rw [settleItems, h.1, ih h.2]
    rfl

theorem settleEntries_ofParts {parts : Dict (Source × Json)}
    (h : ∀ e ∈ parts, e.2.1.settle = .ok e.2.1) :
    settleEntries (parts.map fun e => (.ofString e.1, e.2.1)) =
      .ok (parts.map fun e => (.ofString e.1, e.2.1)) := by
  induction parts with
  | nil => rfl
  | cons e rest ih =>
    rw [List.forall_mem_cons] at h
    rw [List.map_cons, settleEntries, h.1, ih h.2]
    rfl

/-- The scalars of such a source have their own types already. -/
theorem States.settle (h : States once s v) : s.settle = .ok s := by
  induction h with
  | null | bool _ | number _ | string _ => rfl
  | list _ ih =>
    rw [Source.settle, settleItems_eq_ok (List.forall_mem_map.2 ih)]
    rfl
  | mapping _ _ ih =>
    rw [ofParts, Source.settle, settleEntries_ofParts ih]
    rfl

/-- Without repeated keys nothing is lost. -/
theorem States.eq_source (h : States True s v) : s = v.source := by
  induction h with
  | null | bool _ | number _ | string _ => rfl
  | list _ ih =>
    rw [Json.source, Json.sourceItems_eq_map, List.map_map]
    exact congrArg _ (List.map_congr_left ih)
  | @mapping parts hdistinct _ ih =>
    have hfields := (Dict.distinct_map fun e : String × Source × Json => e.2.2).2 (hdistinct trivial)
    rw [Json.ofParts, Dict.ofList_of_distinct hfields, Json.source, Json.sourceFields_eq_map,
      List.map_map]
    refine congrArg Source.mapping (List.map_congr_left fun e he => ?_)
    rw [ih e he]
    rfl

mutual

theorem states_source : (v : Json) → v.source.distinctKeys = true → States once v.source v
  | .null, _ => .null
  | .bool b, _ => .bool b
  | .number n, _ => .number n
  | .string s, _ => .string s
  | .array items, h => by
    have hitems := states_sourceItems items (distinctKeys_array_iff.1 h)
    have hparts : ∀ p ∈ items.map fun v => (v.source, v), States once p.1 p.2 :=
      List.forall_mem_map.2 hitems
    have hlist := States.list hparts
    simpa [Json.source, Json.sourceItems_eq_map, Function.comp_def] using hlist
  | .object fields, h => by
    have h := distinctKeys_object_iff.1 h
    have hfields : Dict.ofList fields = fields := Dict.ofList_of_distinct h.1
    have hparts := (Dict.distinct_map fun e : String × Json => (e.2.source, e.2)).2 h.1
    have hmapping := States.mapping (fun _ : once => hparts)
      (List.forall_mem_map.2 (states_sourceFields fields h.2))
    simpa [ofParts, Json.ofParts, Json.source, Json.sourceFields_eq_map, Function.comp_def,
      hfields] using hmapping

theorem states_sourceItems :
    (items : List Json) → (∀ v ∈ items, v.source.distinctKeys = true) →
      ∀ v ∈ items, States once v.source v
  | [], _, _, hmem => by cases hmem
  | v :: rest, h, w, hmem => by
    rw [List.forall_mem_cons] at h
    rcases List.mem_cons.1 hmem with hw | hmem
    · rw [hw]
      exact states_source v h.1
    · exact states_sourceItems rest h.2 w hmem

theorem states_sourceFields :
    (fields : List (String × Json)) → (∀ e ∈ fields, e.2.source.distinctKeys = true) →
      ∀ e ∈ fields, States once e.2.source e.2
  | [], _, _, hmem => by cases hmem
  | (_, v) :: rest, h, e, hmem => by
    rw [List.forall_mem_cons] at h
    rcases List.mem_cons.1 hmem with he | hmem
    · rw [he]
      exact states_source v h.1
    · exact states_sourceFields rest h.2 e hmem

end

/-! ## The value that a text says -/

theorem exists_of_jsonItems {items : List Source} {vs : List Json} (h : jsonItems items = .ok vs) :
    ∃ parts : List (Source × Json), items = parts.map (·.1) ∧ vs = parts.map (·.2) ∧
      ∀ p ∈ parts, p.1.json = .ok p.2 := by
  induction items generalizing vs with
  | nil =>
    cases h
    exact ⟨[], rfl, rfl, List.forall_mem_nil _⟩
  | cons s rest ih =>
    obtain ⟨v, hv, h⟩ := bind_eq_ok.1 h
    obtain ⟨more, hmore, h⟩ := bind_eq_ok.1 h
    cases h
    obtain ⟨parts, rfl, rfl, hparts⟩ := ih hmore
    exact ⟨(s, v) :: parts, rfl, rfl, List.forall_mem_cons.2 ⟨hv, hparts⟩⟩

theorem exists_of_jsonEntries {entries : List (Leaf × Source)} {fields : List (String × Json)}
    (hkeys : ∀ e ∈ entries, ∃ name, e.1 = .ofString name) (h : jsonEntries entries = .ok fields) :
    ∃ parts : Dict (Source × Json), entries = parts.map (fun e => (.ofString e.1, e.2.1)) ∧
      fields = parts.map (fun e => (e.1, e.2.2)) ∧ ∀ e ∈ parts, e.2.1.json = .ok e.2.2 := by
  induction entries generalizing fields with
  | nil =>
    cases h
    exact ⟨[], rfl, rfl, List.forall_mem_nil _⟩
  | cons e rest ih =>
    obtain ⟨k, s⟩ := e
    rw [List.forall_mem_cons] at hkeys
    obtain ⟨name, rfl⟩ := hkeys.1
    obtain ⟨v, hv, h⟩ := bind_eq_ok.1 h
    obtain ⟨more, hmore, h⟩ := bind_eq_ok.1 h
    cases h
    obtain ⟨parts, rfl, rfl, hparts⟩ := ih hkeys.2 hmore
    exact ⟨(name, s, v) :: parts, rfl, rfl, List.forall_mem_cons.2 ⟨hv, hparts⟩⟩

/-- JSON text that can be read as a JSON value states that value. -/
theorem IsJson.states (hs : s.IsJson) :
    ∀ {v : Json}, (once → s.distinctKeys = true) → s.json = .ok v → States once s v := by
  induction hs with
  | null =>
    intro v _ hv
    cases hv
    exact .null
  | bool b =>
    intro v _ hv
    cases hv
    exact .bool b
  | number n =>
    intro v _ hv
    cases hv
    exact .number n
  | string s =>
    intro v _ hv
    cases hv
    exact .string s
  | unreadable | broken =>
    intro v _ hv
    cases hv
  | list _ ih =>
    intro v hdistinct hv
    obtain ⟨vs, hvs, hv⟩ := bind_eq_ok.1 hv
    cases hv
    obtain ⟨parts, rfl, rfl, hparts⟩ := exists_of_jsonItems hvs
    refine .list fun p hp => ih _ (List.mem_map_of_mem hp) (fun honce => ?_) (hparts p hp)
    have hitems := hdistinct honce
    rw [distinctKeys, distinctKeysItems_iff] at hitems
    exact hitems _ (List.mem_map_of_mem hp)
  | mapping hkeys _ ih =>
    intro v hdistinct hv
    obtain ⟨fields, hfields, hv⟩ := bind_eq_ok.1 hv
    cases hv
    obtain ⟨parts, rfl, rfl, hparts⟩ := exists_of_jsonEntries hkeys hfields
    simp only [distinctKeys_mapping_iff, List.forall_mem_map, List.map_map] at hdistinct
    refine .mapping (fun honce => ?_) fun e he => ?_
    · have hkeys : (parts.keys.map some).Nodup := by
        rw [Dict.keys, List.map_map]
        exact (hdistinct honce).1
      exact hkeys.of_map _
    · exact ih _ (List.mem_map_of_mem he) (fun honce => (hdistinct honce).2 e he) (hparts e he)

/-! ## Texts that say a value -/

mutual

/-- Every scalar of the source stands for a value. -/
def readable : Source → Bool
  | .list _ items => readableItems items
  | .mapping entries => readableEntries entries
  | .leaf _ | .broken => true
  | .unreadable => false

/-- Every scalar of the items stands for a value. -/
def readableItems : List Source → Bool
  | [] => true
  | s :: rest => readable s && readableItems rest

/-- Every scalar of the values stands for a value. -/
def readableEntries : List (Leaf × Source) → Bool
  | [] => true
  | (_, s) :: rest => readable s && readableEntries rest

end

end Source

/-- The JSON value that a JSON text starts with; what follows it does not matter. -/
def Json.ofJsonText (text : String) : Except Fault Json :=
  (Source.ofJsonStart text).json

end ApiShape
