import ApiShape.Node.Json
import ApiShape.Proofs.Alongside.Report
import ApiShape.Proofs.Node.StructuralEquality

/-!
# Nodes told apart by their JSON

A node is written as an object with one place for each field, and a field that is absent leaves its place
out. No two places have a name in common, and no value that is there is written like one that is absent,
so nodes with equal JSON are equal.
-/

namespace ApiShape

/-! ## Objects with places for fields -/

namespace Json

/-- Equality as a relation. -/
abbrev Equal (a b : Json) : Prop :=
  a.equal b = true

/-- The values in places are equal, place by place. -/
abbrev SamePlaces (places places' : List (String × Option Json)) : Prop :=
  List.Forall₂ (fun place place' => Option.Rel Equal place.2 place'.2) places places'

/-- The fields of the places that hold a value. -/
def present (places : List (String × Option Json)) : Dict Json :=
  places.flatMap fun place => optional place.1 place.2

variable {places places' : List (String × Option Json)} {name : String} {value : Option Json}

theorem mem_present_iff {j : Json} : (name, j) ∈ present places ↔ (name, some j) ∈ places := by
  have hoptional : ∀ place : String × Option Json,
      (name, j) ∈ optional place.1 place.2 ↔ (name, some j) = place := by
    rintro ⟨name', _ | j'⟩
    · exact iff_of_false List.not_mem_nil nofun
    · simp [optional]
  unfold present
  simp only [List.mem_flatMap, hoptional, exists_eq_right']

theorem keys_present_sublist (places : List (String × Option Json)) :
    (present places).keys.Sublist (places.map (·.1)) := by
  induction places with
  | nil => exact List.Sublist.refl _
  | cons place rest ih =>
    have hfirst : (Dict.keys (optional place.1 place.2)).Sublist [place.1] := by
      cases place.2 with
      | none => exact List.nil_sublist _
      | some j => exact List.Sublist.refl _
    rw [present, List.flatMap_cons, Dict.keys, List.map_append, List.map_cons]
    exact hfirst.append ih

theorem distinct_present (h : (places.map (·.1)).Nodup) : (present places).Distinct :=
  h.sublist (keys_present_sublist places)

/-- A field is looked up in its place. -/
theorem get?_present (h : (places.map (·.1)).Nodup) (hplace : (name, value) ∈ places) :
    (present places).get? name = value := by
  cases value with
  | some j => exact Dict.get?_eq_some_of_mem (distinct_present h) (mem_present_iff.2 hplace)
  | none =>
    refine Option.eq_none_iff_forall_ne_some.2 fun j hj => ?_
    have hplace' := mem_present_iff.1 (Dict.mem_of_get?_eq_some hj)
    have heq := List.inj_on_of_nodup_map h hplace hplace' rfl
    cases heq

/-- Equal objects with the same places have equal values in each of them. -/
theorem samePlaces_of_equal_present (h : (object (present places)).Equal (object (present places')))
    (hnames : places.map (·.1) = places'.map (·.1)) (hdistinct : (places.map (·.1)).Nodup) :
    SamePlaces places places' := by
  have hdistinct' : (places'.map (·.1)).Nodup := hnames ▸ hdistinct
  have hmatch := equal_object_iff.1 h
  have hflip : Dict.Matches (fun b a => a.Equal b) (present places') (present places) :=
    hmatch.flip (distinct_present hdistinct) (distinct_present hdistinct') fun _ _ _ _ heq => heq
  refine forall₂_imp_of_mem (map_eq_map_iff.1 hnames) fun place hplace place' hplace' hname => ?_
  obtain ⟨name, value⟩ := place
  obtain ⟨name', value'⟩ := place'
  obtain rfl : name = name' := hname
  cases value with
  | some j =>
    obtain ⟨j', hj', heq⟩ := hmatch.2 (name, j) (mem_present_iff.2 hplace)
    rw [get?_present hdistinct' hplace'] at hj'
    subst hj'
    exact .some heq
  | none =>
    cases value' with
    | none => exact .none
    | some j' =>
      -- The field would be missing on the other side.
      obtain ⟨j, hj, -⟩ := hflip.2 (name, j') (mem_present_iff.2 hplace')
      rw [get?_present hdistinct hplace] at hj
      cases hj

end Json

/-! ## Names that are read back -/

theorem NodeType.ofName?_name (t : NodeType) : ofName? t.name = some t := by
  cases t <;> rfl

theorem Operator.ofName?_name (o : Operator) : ofName? o.name = some o := by
  cases o <;> rfl

theorem AccessScope.ofName?_name (s : AccessScope) : ofName? s.name = some s := by
  cases s <;> rfl

/-- What is read back from its name is told by the name. -/
theorem eq_of_equal_name {α : Type} {name : α → String} {ofName? : String → Option α}
    (hname : ∀ a, ofName? (name a) = some a) {a b : α}
    (h : Json.Equal (.string (name a)) (.string (name b))) : a = b := by
  have heq : name a = name b := beq_iff_eq.1 h
  exact Option.some.inj ((hname a).symm.trans ((congrArg ofName? heq).trans (hname b)))

/-! ## The places of a node -/

/-- The places of documentation. -/
def Docs.places (d : Docs) : List (String × Option Json) :=
  [ ("description", d.description.map .string), ("title", d.title.map .string),
    ("deprecated", d.deprecated.map .bool), ("default", d.default) ]

/-- The places of validation keywords. -/
def Constraints.places (c : Constraints) : List (String × Option Json) :=
  [ ("format", c.format.map .string), ("pattern", c.pattern.map .string),
    ("minimum", c.minimum.map .number), ("maximum", c.maximum.map .number),
    ("exclusiveMinimum", c.exclusiveMinimum.map .number),
    ("exclusiveMaximum", c.exclusiveMaximum.map .number),
    ("minLength", c.minLength.map Json.ofNat), ("maxLength", c.maxLength.map Json.ofNat),
    ("minItems", c.minItems.map Json.ofNat), ("maxItems", c.maxItems.map Json.ofNat),
    ("accessScope", c.accessScope.map fun s => .string s.name) ]

namespace Node

variable {n m : Node}

/-- A list that is absent when it is empty. -/
def nonempty {α : Type} (as : List α) : Option (List α) :=
  if as.isEmpty then none else some as

/-- The places of a node. -/
def places (n : Node) : List (String × Option Json) :=
  [ ("$ref", n.reference.map .string), ("type", n.type.map fun t => .string t.name),
    ("items", (nonempty (n.items.map json)).map .array),
    ("logicalOperator", n.operator.map fun o => .string o.name),
    ("properties", (nonempty (n.properties.map fun e => (e.1, json e.2))).map .object),
    ("required", (nonempty (n.required.map .string)).map .array),
    ("additionalProperties", n.additional.map json), ("const", n.const) ] ++
  n.docs.places ++ n.constraints.places

theorem jsonItems_eq_map (items : List Node) : jsonItems items = items.map json := by
  induction items with
  | nil => rfl
  | cons n rest ih => rw [jsonItems, ih, List.map_cons]

theorem jsonProperties_eq_map (properties : List (String × Node)) :
    jsonProperties properties = properties.map fun e => (e.1, json e.2) := by
  induction properties with
  | nil => rfl
  | cons e rest ih => rw [jsonProperties, ih, List.map_cons]

theorem arrayField_eq_optional (name : String) (items : List Json) :
    arrayField name items = Json.optional name ((nonempty items).map .array) := by
  unfold arrayField nonempty
  cases items <;> rfl

theorem objectField_eq_optional (name : String) (fields : List (String × Json)) :
    objectField name fields = Json.optional name ((nonempty fields).map .object) := by
  unfold objectField nonempty
  cases fields <;> rfl

theorem jsonAdditional_eq_optional (additional : Option Node) :
    jsonAdditional additional = Json.optional "additionalProperties" (additional.map json) := by
  cases additional <;> simp only [jsonAdditional, Option.map_none, Option.map_some, Json.optional]

/-- A node is written as the fields of its places. -/
theorem json_eq_present (n : Node) : n.json = .object (Json.present n.places) := by
  cases n
  rw [json, jsonItems_eq_map, jsonProperties_eq_map, arrayField_eq_optional, arrayField_eq_optional,
    objectField_eq_optional, jsonAdditional_eq_optional]
  simp only [Json.present, places, Docs.places, Constraints.places, Docs.fields, Constraints.fields,
    List.flatMap_append, List.flatMap_cons, List.flatMap_nil, List.append_assoc, List.append_nil]

theorem names_places (n m : Node) : n.places.map (·.1) = m.places.map (·.1) :=
  rfl

/-- No two places of a node have a name in common. -/
theorem nodup_names_places (n : Node) : (n.places.map (·.1)).Nodup := by
  rw [names_places n {}]
  decide

/-! ## Values that are told apart -/

theorem rel_of_rel_map {α : Type} {f : α → Json} {a b : Option α}
    (h : Option.Rel Json.Equal (a.map f) (b.map f)) :
    Option.Rel (fun x y => (f x).Equal (f y)) a b := by
  cases a <;> cases b
  case none.none => exact .none
  case some.some a b =>
    cases h with
    | some h => exact .some h
  all_goals cases h

theorem beq_of_rel {α : Type} [BEq α] {R : α → α → Prop} (hR : ∀ x y, R x y → (x == y) = true)
    {a b : Option α} (h : Option.Rel R a b) : (a == b) = true := by
  cases h with
  | none => rfl
  | some h => exact hR _ _ h

theorem beq_of_rel_string {a b : Option String}
    (h : Option.Rel Json.Equal (a.map .string) (b.map .string)) : (a == b) = true :=
  beq_of_rel (fun _ _ h => h) (rel_of_rel_map h)

theorem beq_of_rel_number {a b : Option Number}
    (h : Option.Rel Json.Equal (a.map .number) (b.map .number)) : (a == b) = true :=
  beq_of_rel (fun _ _ h => h) (rel_of_rel_map h)

theorem beq_of_rel_ofNat {a b : Option Nat}
    (h : Option.Rel Json.Equal (a.map Json.ofNat) (b.map Json.ofNat)) : (a == b) = true := by
  refine beq_of_rel (fun k l h => ?_) (rel_of_rel_map h)
  have heq : (k : Int) = l := beq_iff_eq.1 h
  exact beq_iff_eq.2 (Int.ofNat.inj heq)

theorem eq_of_rel_name {α : Type} {name : α → String} {ofName? : String → Option α}
    (hname : ∀ a, ofName? (name a) = some a) {a b : Option α}
    (h : Option.Rel Json.Equal (a.map fun x => .string (name x)) (b.map fun x => .string (name x))) :
    a = b := by
  have hnames := rel_of_rel_map h
  cases hnames with
  | none => rfl
  | some heq => exact congrArg some (eq_of_equal_name hname heq)

/-- A list that is left out is an empty one. -/
theorem forall₂_of_rel_array {as bs : List Json}
    (h : Option.Rel Json.Equal ((nonempty as).map .array) ((nonempty bs).map .array)) :
    List.Forall₂ Json.Equal as bs := by
  cases as <;> cases bs
  case nil.nil => exact .nil
  case cons.cons a as b bs =>
    cases h with
    | some h => exact Json.equalItems_iff.1 h
  all_goals cases h

/-- Properties that are left out are none. -/
theorem matches_of_rel_object {as bs : Dict Json}
    (h : Option.Rel Json.Equal ((nonempty as).map .object) ((nonempty bs).map .object)) :
    Dict.Matches Json.Equal as bs := by
  cases as <;> cases bs
  case nil.nil => exact ⟨rfl, List.forall_mem_nil _⟩
  case cons.cons a as b bs =>
    cases h with
    | some h => exact Json.equal_object_iff.1 h
  all_goals cases h

theorem matches_of_matches_map {α : Type} {f : α → Json} {as bs : Dict α}
    (h : Dict.Matches Json.Equal (as.map fun e => (e.1, f e.2)) (bs.map fun e => (e.1, f e.2))) :
    Dict.Matches (fun a b => (f a).Equal (f b)) as bs := by
  refine ⟨by simpa using h.1, fun e he => ?_⟩
  obtain ⟨j, hj, heq⟩ := h.2 (e.1, f e.2) (List.mem_map_of_mem he)
  rw [Dict.get?_map] at hj
  obtain ⟨b, hb, rfl⟩ := Option.map_eq_some_iff.1 hj
  exact ⟨b, hb, heq⟩

/-! ## Nodes that are told apart -/

theorem equalItems_iff {ns ms : List Node} :
    equalItems ns ms = true ↔ List.Forall₂ (fun n m => n.equal m = true) ns ms := by
  induction ns generalizing ms with
  | nil => cases ms <;> simp [equalItems]
  | cons n rest ih => cases ms <;> simp [equalItems, ih]

theorem equalProperties_iff {ns : List (String × Node)} {ms : Dict Node} :
    equalProperties ns ms = true ↔ ∀ e ∈ ns, ∃ m, ms.get? e.1 = some m ∧ e.2.equal m = true := by
  induction ns with
  | nil => simp [equalProperties]
  | cons e rest ih =>
    obtain ⟨k, n⟩ := e
    cases hget : Dict.get? ms k <;> simp [equalProperties, hget, ih]

theorem equalOption_iff {a b : Option Node} :
    equalOption a b = true ↔ Option.Rel (fun n m => n.equal m = true) a b := by
  cases a <;> cases b <;> simp [equalOption]

/-- Equality is equality of the parts, and equality of the nodes right inside. -/
theorem equal_iff :
    n.equal m = true ↔
      (n.reference = m.reference ∧ n.type = m.type ∧ n.operator = m.operator ∧
        sameNames n.required m.required = true ∧ (n.const == m.const) = true ∧
        (n.docs == m.docs) = true ∧ (n.constraints == m.constraints) = true) ∧
      List.Forall₂ (fun n m => n.equal m = true) n.items m.items ∧
      Dict.Matches (fun n m => n.equal m = true) n.properties m.properties ∧
      Option.Rel (fun n m => n.equal m = true) n.additional m.additional := by
  cases n
  rw [equal]
  simp only [Bool.and_eq_true, beq_iff_eq, equalItems_iff, equalProperties_iff, equalOption_iff,
    Dict.Matches]
  tauto

theorem docs_beq_eq (a b : Docs) :
    (a == b) = (a.description == b.description && (a.title == b.title &&
      (a.deprecated == b.deprecated && a.default == b.default))) :=
  rfl

/-- Lists that are matched in order are matched in their parts. -/
theorem forall₂_of_append {α β : Type} {R : α → β → Prop} {as as' : List α} {bs bs' : List β}
    (h : List.Forall₂ R (as ++ as') (bs ++ bs')) (hlength : as.length = bs.length) :
    List.Forall₂ R as bs ∧ List.Forall₂ R as' bs' := by
  have htake := List.forall₂_take_append _ bs bs' h
  have hdrop := List.forall₂_drop_append _ bs bs' h
  rw [← hlength, List.take_left] at htake
  rw [← hlength, List.drop_left] at hdrop
  exact ⟨htake, hdrop⟩

theorem docs_beq_of_places {a b : Docs} (h : Json.SamePlaces a.places b.places) : (a == b) = true := by
  simp only [Json.SamePlaces, Docs.places, List.forall₂_cons] at h
  obtain ⟨hdescription, htitle, hdeprecated, hdefault, -⟩ := h
  have hflag : (a.deprecated == b.deprecated) = true :=
    beq_of_rel (fun _ _ h => h) (rel_of_rel_map hdeprecated)
  have hvalue : (a.default == b.default) = true := beq_of_rel (fun _ _ h => h) hdefault
  rw [docs_beq_eq, beq_of_rel_string hdescription, beq_of_rel_string htitle, hflag, hvalue]
  rfl

theorem constraints_beq_of_places {a b : Constraints} (h : Json.SamePlaces a.places b.places) :
    (a == b) = true := by
  simp only [Json.SamePlaces, Constraints.places, List.forall₂_cons] at h
  obtain ⟨hformat, hpattern, hminimum, hmaximum, hexclusiveMinimum, hexclusiveMaximum, hminLength,
    hmaxLength, hminItems, hmaxItems, haccess, -⟩ := h
  have hscope : (a.accessScope == b.accessScope) = true :=
    beq_iff_eq.2 (eq_of_rel_name AccessScope.ofName?_name haccess)
  rw [constraints_beq_eq, beq_of_rel_string hformat, beq_of_rel_string hpattern,
    beq_of_rel_number hminimum, beq_of_rel_number hmaximum, beq_of_rel_number hexclusiveMinimum,
    beq_of_rel_number hexclusiveMaximum, beq_of_rel_ofNat hminLength, beq_of_rel_ofNat hmaxLength,
    beq_of_rel_ofNat hminItems, beq_of_rel_ofNat hmaxItems, hscope]
  rfl

/-- Nodes with equal JSON have equal parts, and the nodes right inside have equal JSON. -/
theorem parts_of_json_equal (h : n.json.Equal m.json) :
    (n.reference = m.reference ∧ n.type = m.type ∧ n.operator = m.operator ∧
        n.required = m.required ∧ (n.const == m.const) = true ∧ (n.docs == m.docs) = true ∧
        (n.constraints == m.constraints) = true) ∧
      List.Forall₂ (fun n m => n.json.Equal m.json) n.items m.items ∧
      Dict.Matches (fun n m => n.json.Equal m.json) n.properties m.properties ∧
      Option.Rel (fun n m => n.json.Equal m.json) n.additional m.additional := by
  rw [json_eq_present, json_eq_present] at h
  have hplaces := Json.samePlaces_of_equal_present h (names_places n m) (nodup_names_places n)
  obtain ⟨hbefore, hconstraints⟩ := forall₂_of_append hplaces rfl
  obtain ⟨hown, hdocs⟩ := forall₂_of_append hbefore rfl
  simp only [List.forall₂_cons] at hown
  obtain ⟨hreference, htype, hitems, hoperator, hproperties, hrequired, hadditional, hconst, -⟩ := hown
  refine ⟨⟨beq_iff_eq.1 (beq_of_rel_string hreference), eq_of_rel_name NodeType.ofName?_name htype,
    eq_of_rel_name Operator.ofName?_name hoperator, ?_, beq_of_rel (fun _ _ h => h) hconst,
    docs_beq_of_places hdocs, constraints_beq_of_places hconstraints⟩, ?_,
    matches_of_matches_map (matches_of_rel_object hproperties), rel_of_rel_map hadditional⟩
  · have hnames := forall₂_of_rel_array hrequired
    rw [List.forall₂_map_left_iff, List.forall₂_map_right_iff] at hnames
    exact List.forall₂_eq_eq_eq ▸ hnames.imp fun _ _ h => beq_iff_eq.1 h
  · have hinside := forall₂_of_rel_array hitems
    rwa [List.forall₂_map_left_iff, List.forall₂_map_right_iff] at hinside

/-- Equal JSON means equal nodes, by induction on the nodes inside. -/
theorem equal_of_json_equal {n m : Node} (h : n.json.Equal m.json) : n.equal m = true := by
  have hinside : ∀ c ∈ n.children, ∀ c', c.json.Equal c'.json → c.equal c' = true := by
    intro c hc c' heq
    have := sizeOf_lt_of_mem_children hc
    exact equal_of_json_equal heq
  obtain ⟨⟨hreference, htype, hoperator, hrequired, hconst, hdocs, hconstraints⟩, hitems, hproperties,
    hadditional⟩ := parts_of_json_equal h
  refine equal_iff.2 ⟨⟨hreference, htype, hoperator, ?_, hconst, hdocs, hconstraints⟩, ?_, ?_, ?_⟩
  · exact hrequired ▸ sameNames_of_perm (.refl _)
  · exact forall₂_imp_of_mem hitems fun c hc c' _ => hinside c (mem_children_of_items hc) c'
  · refine ⟨hproperties.1, fun e he => ?_⟩
    obtain ⟨c', hc', heq⟩ := hproperties.2 e he
    exact ⟨c', hc', hinside _ (mem_children_of_properties he) c' heq⟩
  · cases ha : n.additional <;> cases ha' : m.additional <;> rw [ha, ha'] at hadditional
    case none.none => exact .none
    case some.some c c' =>
      cases hadditional with
      | some heq => exact .some (hinside c (mem_children_of_additional ha) c' heq)
    all_goals cases hadditional
termination_by sizeOf n

/-- The JSON of a node loses nothing of it. Nodes with equal JSON, where the order of fields does not
count, are equal. In particular a constant or a default that is null is told from one that is absent, and
additional properties that say nothing are told from none, and documentation and validation keywords,
which stand beside the other fields, from those and from each other. -/
theorem beq_of_json_beq {n m : Node} (h : (n.json == m.json) = true) :
    (n == m) = true ∧ n.const.isNone = m.const.isNone ∧
      n.docs.default.isNone = m.docs.default.isNone ∧
      n.additional.isNone = m.additional.isNone ∧ (n.docs == m.docs) = true ∧
      (n.constraints == m.constraints) = true := by
  have heq := equal_of_json_equal h
  obtain ⟨⟨-, -, -, -, hconst, hdocs, hconstraints⟩, -, -, hadditional⟩ := equal_iff.1 heq
  have hdefault : (n.docs.default == m.docs.default) = true := by
    rw [docs_beq_eq] at hdocs
    simp only [Bool.and_eq_true] at hdocs
    exact hdocs.2.2.2
  have hnone : n.additional.isNone = m.additional.isNone := by
    rw [← Option.not_isSome, ← Option.not_isSome, isSome_eq_of_rel hadditional]
  exact ⟨heq, isNone_congr hconst, isNone_congr hdefault, hnone, hdocs, hconstraints⟩

/-- A node with fields that are there but say little. -/
def sparse (properties : List (String × Node)) : Node :=
  { type := some .object, properties, required := ["a"], additional := some {},
    docs := { title := some "", default := some .null }, constraints := { minLength := some 0 } }

/-- The properties of an object may be written in another order. -/
theorem beq_of_json_beq_sparse :
    let n := sparse [("a", { const := some .null }), ("b", { items := [sparse []] })]
    let m := sparse [("b", { items := [sparse []] }), ("a", { const := some .null })]
    (n.json == m.json) = true ∧ (n == m) = true := by
  intro n m
  have h : (n.json == m.json) = true := by decide
  exact ⟨h, (beq_of_json_beq h).1⟩

/-- Equal nodes need not have equal JSON: the order of required names does not count between nodes. -/
example : (({ required := ["a", "b"] } : Node) == { required := ["b", "a"] }) = true ∧
    (Node.json { required := ["a", "b"] } == Node.json { required := ["b", "a"] }) = false :=
  ⟨by decide +kernel, by decide⟩

end Node

end ApiShape
