import ApiShape.Document.SchemaReader
import ApiShape.Proofs.Pointer.Steps
import ApiShape.Proofs.Source.JsonValue
import ApiShape.Proofs.Source.Reader

/-!
# What is read from JSON text

A relation between what a reader gives and the JSON value that its source states. The parts of what is
read are read from the parts of the value that have the same names and positions, so what holds of the
parts holds of the whole. A record must not be written as a list: the items of a list have no names.
-/

namespace ApiShape

/-! ## Records that are not written as lists -/

namespace Source

/-- The source is no list, and its entries under some keys meet the conditions for these keys. -/
def mapped (conditions : Dict (Source → Bool)) : Source → Bool
  | .list _ _ => false
  | .mapping entries =>
    entries.all fun (k, s) =>
      match k.written.bind conditions.get? with
      | some condition => condition s
      | none => true
  | .leaf _ | .unreadable | .broken => true

/-- All items or values of the source meet the condition. -/
def eachPart (condition : Source → Bool) : Source → Bool
  | .list _ items => items.all condition
  | .mapping entries => entries.all fun e => condition e.2
  | .leaf _ | .unreadable | .broken => true

/-- The source is a reference, or meets the condition. -/
def unlessRef (condition : Source → Bool) (s : Source) : Bool :=
  (Ref.read s).toOption.isSome || condition s

/-- No condition. -/
def free (_ : Source) : Bool := true

theorem eachPart_free (s : Source) : s.eachPart free = true := by
  cases s <;> simp [eachPart, free]

end Source

/-! ## Readers -/

namespace Reader

open Source

variable {once : Prop} {α : Type} {read : Reader α} {condition : Source → Bool}
  {P : α → Option Json → Prop}

/-- Whatever the reader gives is in the relation to the value that the source states, if the source
meets the condition. -/
def Relates (once : Prop) (read : Reader α) (condition : Source → Bool) (P : α → Option Json → Prop) :
    Prop :=
  ∀ s v a, States once s v → condition s = true → read s = .ok a → P a (some v)

/-! ### Values -/

theorem readItems_json {parts : List (Source × Json)} (h : ∀ p ∈ parts, States once p.1 p.2) (i : Nat) :
    readItems Reader.json i (parts.map (·.1)) = .ok (parts.map (·.2)) := by
  induction parts generalizing i with
  | nil => rfl
  | cons p rest ih =>
    rw [List.forall_mem_cons] at h
    rw [List.map_cons, readItems, Reader.json, h.1.json, ← Reader.json, ih h.2]
    rfl

/-- A list of values is the list that the source states. -/
theorem relates_values :
    Relates once (Reader.list Reader.json) free fun js o => o = some (.array js) := by
  intro s v js hstates _ hjs
  cases hstates with
  | list hparts =>
    cases (readItems_json hparts 0).symm.trans hjs
    rfl
  | null | bool _ | number _ | string _ | mapping _ _ => cases hjs

/-! ### Containers -/

theorem Relates.optional (h : Relates once read condition P) :
    Relates once (Reader.optional read) condition fun a o => ∀ b ∈ a, P b o := by
  intro s v a hstates hs ha b hb
  unfold Reader.optional at ha
  split at ha
  · cases ha
    cases hb
  · obtain ⟨c, hread, rfl⟩ := map_eq_ok.1 ha
    cases hb
    exact h s v b hstates hs hread

theorem getElem?_of_readItems {parts : List (Source × Json)} {as : List α} {i j : Nat} {a : α}
    (h : readItems read i (parts.map (·.1)) = .ok as) (ha : as[j]? = some a) :
    ∃ p, parts[j]? = some p ∧ read p.1 = .ok a := by
  induction parts generalizing i j as with
  | nil =>
    cases h
    simp at ha
  | cons p rest ih =>
    obtain ⟨b, hb, h⟩ := bind_eq_ok.1 h
    obtain ⟨more, hmore, h⟩ := bind_eq_ok.1 h
    cases h
    cases j with
    | zero =>
      cases ha
      exact ⟨p, rfl, within_eq_ok.1 hb⟩
    | succ j => exact ih hmore ha

theorem Relates.list (h : Relates once read condition P) :
    Relates once (Reader.list read) (eachPart condition) fun as o =>
      ∀ segment i a, Pointer.index? segment = some i → as[i]? = some a →
        P a (Json.part? o segment) := by
  intro s v as hstates hs has segment i a hi ha
  cases hstates with
  | @list parts hparts =>
    simp only [eachPart, List.all_map, List.all_eq_true, Function.comp] at hs
    obtain ⟨p, hp, hread⟩ := getElem?_of_readItems has ha
    have hmem := List.mem_of_getElem? hp
    have hpart : Json.part? (some (.array (parts.map (·.2)))) segment = some p.2 := by
      rw [Json.part?, hi, Option.bind_some, List.getElem?_map, hp, Option.map_some]
    rw [hpart]
    exact h p.1 p.2 a (hparts p hmem) (hs p hmem) hread
  | null | bool _ | number _ | string _ | mapping _ _ => cases has

theorem forall₂_of_readEntries (h : Relates once read condition P) {parts : Dict (Source × Json)}
    (hparts : ∀ e ∈ parts, States once e.2.1 e.2.2) (hs : ∀ e ∈ parts, condition e.2.1 = true)
    {as : List (String × α)}
    (has : readEntries read (parts.map fun e => (.ofString e.1, e.2.1)) = .ok as) :
    List.Forall₂ (fun e f => e.1 = f.1 ∧ P f.2 (some e.2)) (parts.map fun e => (e.1, e.2.2)) as := by
  induction parts generalizing as with
  | nil =>
    cases has
    exact .nil
  | cons e rest ih =>
    rw [List.forall_mem_cons] at hparts hs
    obtain ⟨a, ha, has⟩ := bind_eq_ok.1 has
    obtain ⟨more, hmore, has⟩ := bind_eq_ok.1 has
    cases has
    exact .cons ⟨rfl, h _ _ a hparts.1 hs.1 (within_eq_ok.1 ha)⟩ (ih hparts.2 hs.2 hmore)

theorem Relates.dict (h : Relates once read condition P) :
    Relates once (Reader.dict read) (eachPart condition) fun named o =>
      ∀ e ∈ named, P e.2 (Json.part? o e.1) := by
  intro s v named hstates hs hnamed e he
  cases hstates with
  | @mapping parts _ hparts =>
    simp only [ofParts, eachPart, List.all_map, List.all_eq_true, Function.comp] at hs
    obtain ⟨as, has, rfl⟩ := map_eq_ok.1 hnamed
    -- Of a repeated key both keep the last value.
    have hget := Dict.get?_eq_some_of_mem (Dict.distinct_ofList as) he
    obtain ⟨w, hw, hP⟩ := Dict.get?_ofList_of_forall₂ (R := fun w a => P a (some w))
      (forall₂_of_readEntries h hparts hs has) hget
    have hpart : Json.part? (some (Json.ofParts parts)) e.1 = some w := hw
    rwa [hpart]
  | null | bool _ | number _ | string _ | list _ => cases hnamed

theorem Relates.refOr (h : Relates once read condition P) :
    Relates once (RefOr.read read) (unlessRef condition) fun place o =>
      ∀ a ∈ place.inline?, P a o := by
  intro s v place hstates hs hplace a ha
  unfold RefOr.read at hplace
  rw [hstates.settle] at hplace
  dsimp only at hplace
  split at hplace
  · cases hplace
    cases ha
  · rename_i hnoRef hread
    cases hplace
    cases ha
    rw [unlessRef, hnoRef] at hs
    exact h s v a hstates hs hread
  · cases hplace

/-! ### Records -/

/-- The record of a mapping. -/
def recordOfParts (names : List String) (parts : Dict (Source × Json)) : Record :=
  ⟨parts.map fun e => ⟨.key e.1, e.1, e.2.1⟩, names, false⟩

/-- The parts are those of a mapping that is read as a record and does not repeat the names that the
record knows. -/
structure RecordParts (once : Prop) (names : List String) (conditions : Dict (Source → Bool))
    (parts : Dict (Source × Json)) : Prop where
  states : ∀ e ∈ parts, States once e.2.1 e.2.2
  known : ((parts.map (·.1)).filter names.contains).Nodup
  mapped : ∀ e ∈ parts, ∀ condition ∈ conditions.get? e.1, condition e.2.1 = true

theorem mappingFields_ofParts (names : List String) (parts : Dict (Source × Json)) :
    mappingFields names (parts.map fun e => (.ofString e.1, e.2.1)) =
      some (parts.map fun e => ⟨.key e.1, e.1, e.2.1⟩) := by
  induction parts with
  | nil => rfl
  | cons e rest ih =>
    rw [List.map_cons, mappingFields, ih]
    rfl

theorem recordOf_ofParts (names : List String) (parts : Dict (Source × Json)) :
    recordOf names (ofParts parts) = .ok (recordOfParts names parts) := by
  rw [ofParts, recordOf, mappingFields_ofParts]
  rfl

/-- A field is found by its name. -/
theorem find?_recordOfParts (names : List String) (parts : Dict (Source × Json)) (name : String) :
    ((recordOfParts names parts).find? name).map (·.2.source) =
      (Dict.get? parts name).map (·.1) := by
  have hfirst := congrArg (Option.map Field.source) (map_snd_find? (recordOfParts names parts) name)
  rw [Option.map_map] at hfirst
  refine hfirst.trans ?_
  clear hfirst
  unfold recordOfParts
  induction parts with
  | nil => rfl
  | cons e rest ih =>
    rw [Dict.get?, List.map_cons, List.find?_cons]
    by_cases hname : e.1 = name
    · simp [hname]
    · simpa [hname] using ih

/-- A record that is checked does not repeat the names that it knows. -/
theorem nodup_of_firstFault {names seen : List String} {i : Nat} {fields : List Field}
    (h : Record.firstFault names seen i fields = .ok ()) :
    ((fields.map (·.name)).filter names.contains).Nodup := by
  induction fields generalizing seen i with
  | nil => exact List.nodup_nil
  | cons f rest ih =>
    simp only [Record.firstFault, List.contains_iff_mem] at h
    simp only [List.map_cons, List.filter_cons, List.contains_iff_mem]
    by_cases hknown : f.name ∈ names
    · by_cases hseen : f.name ∈ seen
      · simp only [hknown, hseen, if_true] at h
        cases h
      simp only [hknown, hseen, if_true] at h
      rw [if_pos hknown, List.nodup_cons]
      refine ⟨fun hmem => ?_, ih h⟩
      -- A later field of the name would have been seen before.
      obtain ⟨g, hg, hname⟩ := List.mem_map.1 (List.mem_filter.1 hmem).1
      have hfield := mem_of_firstFault h g hg
      rw [hname] at hfield
      rcases hfield with ⟨hnew, -⟩ | ⟨-, hnew, -⟩
      · exact hnew hknown
      · exact hnew List.mem_cons_self
    · rw [if_neg hknown]
      by_cases hintact : f.source.intact = true
      · simp only [hknown, hintact, if_false] at h
        exact ih h
      · simp only [hknown, hintact, if_false] at h
        cases h

theorem Relates.record {names : List String} {fields : Record → Reading α}
    {conditions : Dict (Source → Bool)}
    (h : ∀ parts, RecordParts once names conditions parts →
      (fields (recordOfParts names parts)).Gives fun a => P a (some (Json.ofParts parts))) :
    Relates once (Reader.record names fields) (mapped conditions) P := by
  intro s v a hstates hs ha
  cases hstates with
  | @mapping parts _ hparts =>
    unfold Reader.record at ha
    rw [recordOf_ofParts] at ha
    obtain ⟨hread, hchecked⟩ := of_record_read ha
    refine h parts ⟨hparts, ?_, ?_⟩ a hread
    · unfold Record.checked at hchecked
      split at hchecked
      · rename_i hfirst
        have hnodup := nodup_of_firstFault hfirst
        rwa [recordOfParts, List.map_map] at hnodup
      · cases hchecked
    · intro e he condition hcondition
      simp only [ofParts, mapped, List.all_map, List.all_eq_true, Function.comp, Leaf.ofString,
        Option.bind_some] at hs
      have he := hs e he
      rwa [hcondition] at he
  -- A list would be read by the positions of its items.
  | list _ => cases hs
  | null | bool _ | number _ | string _ => cases ha

theorem Relates.openRecord {names : List String} {fields : Record → Reading α}
    (h : Relates once (Reader.record names fields) condition P) :
    Relates once (Reader.openRecord names fields) condition P := by
  intro s v a hstates hs ha
  cases hstates with
  | list _ => cases ha
  | null => exact h _ _ a .null hs ha
  | bool b => exact h _ _ a (.bool b) hs ha
  | number n => exact h _ _ a (.number n) hs ha
  | string t => exact h _ _ a (.string t) hs ha
  | mapping hdistinct hparts => exact h _ _ a (.mapping hdistinct hparts) hs ha

section Fields

variable {names : List String} {conditions : Dict (Source → Bool)} {parts : Dict (Source × Json)}
  {name : String} (hparts : RecordParts once names conditions parts)
  (hname : names.contains name = true)

include hparts hname

/-- A known name leads to the value of the first part of that name. -/
theorem RecordParts.part? :
    Json.part? (some (Json.ofParts parts)) name = (Dict.get? parts name).map (·.2) := by
  have hknown : (((parts.map fun e => (e.1, e.2.2)).map (·.1)).filter names.contains).Nodup := by
    rw [List.map_map]
    exact hparts.known
  have hget := Dict.get?_ofList_of_known hknown hname
  rw [Dict.get?_map (fun p : Source × Json => p.2)] at hget
  exact hget

/-- What is read from a field is in the relation to the part of its name. -/
theorem Relates.field (h : Relates once read condition P) {absent : α} (habsent : P absent none)
    (hcondition : ∀ e ∈ parts, e.1 = name → condition e.2.1 = true) :
    ((recordOfParts names parts).field name read absent).Gives fun a =>
      P a (Json.part? (some (Json.ofParts parts)) name) := by
  intro a ha
  have hfind := find?_recordOfParts names parts name
  rw [hparts.part? hname]
  unfold Record.field at ha
  cases hget : Dict.get? parts name with
  | none =>
    rw [hget, Option.map_none, Option.map_eq_none_iff] at hfind
    rw [hfind] at ha
    cases ha
    exact habsent
  | some p =>
    rw [hget, Option.map_some, Option.map_eq_some_iff] at hfind
    obtain ⟨found, hfound, hsource⟩ := hfind
    rw [hfound] at ha
    simp only [Record.readAt, hsource] at ha
    split at ha
    · rename_i hread
      cases ha
      have hmem := Dict.mem_of_get?_eq_some hget
      exact h p.1 p.2 a (hparts.states _ hmem) (hcondition _ hmem rfl) hread
    · cases ha

/-- A field with a condition. -/
theorem Relates.mappedField (h : Relates once read condition P) {absent : α} (habsent : P absent none)
    (hcondition : conditions.get? name = some condition) :
    ((recordOfParts names parts).field name read absent).Gives fun a =>
      P a (Json.part? (some (Json.ofParts parts)) name) := by
  refine h.field hparts hname habsent fun e he heq => ?_
  subst heq
  exact hparts.mapped e he condition hcondition

theorem Relates.optionalField (h : Relates once read condition P)
    (hcondition : conditions.get? name = some condition) :
    ((recordOfParts names parts).optional name read).Gives fun a =>
      ∀ b ∈ a, P b (Json.part? (some (Json.ofParts parts)) name) :=
  h.optional.mappedField hparts hname (fun b hb => by cases hb) hcondition

theorem Relates.dictField (h : Relates once read condition P)
    (hcondition : conditions.get? name = some (eachPart condition)) :
    ((recordOfParts names parts).field name (Reader.dict read) []).Gives fun named =>
      ∀ e ∈ named, P e.2 (Json.part? (Json.part? (some (Json.ofParts parts)) name) e.1) :=
  h.dict.mappedField hparts hname (List.forall_mem_nil _) hcondition

end Fields

end Reader

end ApiShape
