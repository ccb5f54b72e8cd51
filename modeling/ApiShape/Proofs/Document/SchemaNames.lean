import ApiShape.Node.Basic
import ApiShape.Normalize.Basic
import ApiShape.Proofs.Alongside.Report
import ApiShape.Proofs.Document.Places
import ApiShape.Proofs.Pointer.Segments
import ApiShape.Proofs.Text.Blank

/-!
# Names of schemas in references

A reference that resolves to a schema points right at a named schema, or lies at least three segments
deep. So what is rewritten as a reference to a named schema is read back as one, under the same name,
and nothing else is.
-/

namespace ApiShape

/-! ## Schemas near the top of a document -/

namespace Target

variable {d : Document} {t t' : Target} {place : RefOr Schema} {segment : String}
  {segments rest : List String}

theorem atSchema_injective {place place' : RefOr Schema} (h : atSchema place = atSchema place') :
    place = place' := by
  cases place <;> cases place' <;> cases h <;> rfl

theorem get?_of_step {entries : Dict Target} (hview : t.view = .keyed entries)
    (h : Pointer.step t segment rest = .ok t') : entries.get? segment = some t' := by
  rcases Pointer.cases_of_step h with ⟨_, hview', hget⟩ | ⟨_, _, hview', -⟩
  · cases hview.symm.trans hview'
    exact hget
  · cases hview.symm.trans hview'

theorem get?_of_step_schemas {named : List (String × RefOr Schema)}
    (h : Pointer.step (schemas named) segment rest = .ok (atSchema place)) :
    Dict.get? named segment = some place := by
  have hget := get?_of_step (t := schemas named) rfl h
  rw [get?_entries] at hget
  obtain ⟨place', hplace', heq⟩ := Option.map_eq_some_iff.1 hget
  rw [hplace', atSchema_injective heq]

/-- A part that is no place for a schema. -/
theorem ne_atSchema_of_shown_components {c : Document.Components}
    (h : t ∈ (components c).shown) : t ≠ atSchema place := by
  simp only [shown, view, Dict.values, List.map_cons, List.map_nil, List.mem_cons,
    List.not_mem_nil, or_false] at h
  intro heq
  rcases h with rfl | rfl | rfl | rfl | rfl <;> cases place <;> cases heq

/-- Of the schemas that one segment or two lead to, all are definitions. -/
theorem exists_definition_of_follow (hlength : segments.length ≤ 2)
    (h : Pointer.follow (document d) segments = .ok (atSchema place)) :
    ∃ name, segments = ["definitions", name] ∧ Dict.get? d.definitions name = some place := by
  match segments, hlength with
  | [], _ =>
    rw [Pointer.follow] at h
    cases place <;> cases h
  | [a], _ =>
    obtain ⟨part, hstep, h⟩ := Pointer.follow_cons_eq_ok.1 h
    cases h
    have hmem := mem_shown_of_step hstep
    simp only [shown, view, Dict.values, List.map_cons, List.map_nil, List.mem_cons,
      List.not_mem_nil, or_false] at hmem
    rcases hmem with h | h | h | h | h | h
    · cases place <;> cases h
    · cases hc : d.components <;> rw [hc] at h <;> cases place <;> cases h
    · cases place <;> cases h
    · cases place <;> cases h
    · cases place <;> cases h
    · cases place <;> cases h
  | [a, b], _ =>
    obtain ⟨part, hstep, h⟩ := Pointer.follow_cons_eq_ok.1 h
    obtain ⟨part', hstep', h⟩ := Pointer.follow_cons_eq_ok.1 h
    cases h
    have hget := Dict.mem_of_get?_eq_some (get?_of_step (t := document d) rfl hstep)
    have hshown := mem_shown_of_step hstep'
    simp only [List.mem_cons, Prod.mk.injEq, List.not_mem_nil, or_false] at hget
    rcases hget with ⟨-, rfl⟩ | ⟨-, rfl⟩ | ⟨rfl, rfl⟩ | ⟨-, rfl⟩ | ⟨-, rfl⟩ | ⟨-, rfl⟩
    · obtain ⟨p, _, heq⟩ := mem_values_entries.1 hshown
      cases place <;> cases heq
    · cases hc : d.components with
      | none =>
        rw [hc] at hshown
        cases hshown
      | some c =>
        rw [hc] at hshown
        exact absurd rfl (ne_atSchema_of_shown_components hshown)
    · exact ⟨b, rfl, get?_of_step_schemas hstep'⟩
    · obtain ⟨p, _, heq⟩ := mem_values_entries.1 hshown
      cases place <;> cases heq
    · obtain ⟨p, _, heq⟩ := mem_values_entries.1 hshown
      cases place <;> cases heq
    · obtain ⟨p, _, heq⟩ := mem_values_entries.1 hshown
      cases place <;> cases heq

/-- The schemas of the components are entries under their names. -/
theorem exists_component_of_follow {name : String}
    (h : Pointer.follow (document d) ["components", "schemas", name] = .ok (atSchema place)) :
    ∃ c, d.components = some c ∧ Dict.get? c.schemas name = some place := by
  obtain ⟨part, hstep, h⟩ := Pointer.follow_cons_eq_ok.1 h
  obtain ⟨part', hstep', h⟩ := Pointer.follow_cons_eq_ok.1 h
  obtain ⟨part'', hstep'', h⟩ := Pointer.follow_cons_eq_ok.1 h
  cases h
  have hcomponents : ofOption components d.components = part :=
    Option.some.inj (get?_of_step (t := document d) rfl hstep)
  cases hc : d.components with
  | none =>
    rw [hc] at hcomponents
    subst hcomponents
    cases hstep'
  | some c =>
    rw [hc] at hcomponents
    subst hcomponents
    have hschemas : schemas c.schemas = part' :=
      Option.some.inj (get?_of_step (t := components c) rfl hstep')
    subst hschemas
    exact ⟨c, rfl, get?_of_step_schemas hstep''⟩

end Target

namespace Document

variable {d : Document} {r : Ref} {s : Schema} {name : String}

/-- A reference to a named schema that resolves names one of the schemas of the document. -/
theorem exists_mem_schemas_of_resolve (h : d.resolve Schema r = .ok s)
    (hname : r.schemaName? = some name) : ∃ named ∈ d.schemas, named.name = name := by
  obtain ⟨place, hstep⟩ := exists_stepFrom_of_resolve h
  obtain ⟨p, hp, hfollow⟩ := exists_target_of_stepFrom hstep
  unfold Ref.schemaName? at hname
  rw [hp] at hname
  unfold Ref.namedSchema? at hname
  dsimp only at hname
  unfold schemas
  split at hname
  · rename_i hsegments
    cases hname
    rw [hsegments] at hfollow
    obtain ⟨c, hc, hget⟩ := Target.exists_component_of_follow hfollow
    refine ⟨_, List.mem_append_left _ (List.mem_map.2 ⟨(name, place), ?_, rfl⟩), rfl⟩
    rw [hc]
    exact Dict.mem_of_get?_eq_some hget
  · rename_i hsegments
    cases hname
    rw [hsegments] at hfollow
    obtain ⟨_, heq, hget⟩ := Target.exists_definition_of_follow (by simp) hfollow
    cases heq
    exact ⟨_, List.mem_append_right _
      (List.mem_map.2 ⟨(name, place), Dict.mem_of_get?_eq_some hget, rfl⟩), rfl⟩
  · cases hname

end Document

/-! ## Pointers read back from nodes -/

namespace Node

/-- The pointer after a number sign. -/
def pointerOf? : List Char → Option Pointer
  | '#' :: rest => (Pointer.parse (String.ofList rest)).toOption
  | _ => none

/-- The pointer that a node's reference is read as, if it is one. The reference is not
percent-encoded. -/
def pointer? (n : Node) : Option Pointer :=
  n.reference.bind fun reference => pointerOf? reference.toList

theorem pointerOf?_eq_some_iff {cs : List Char} {p : Pointer} :
    pointerOf? cs = some p ↔ ∃ rest, cs = '#' :: rest ∧ Pointer.parse (String.ofList rest) = .ok p := by
  constructor
  · intro h
    unfold pointerOf? at h
    split at h
    · exact ⟨_, rfl, eq_ok_of_toOption h⟩
    · cases h
  · rintro ⟨rest, rfl, hparse⟩
    rw [pointerOf?, hparse]
    rfl

theorem pointer?_eq_some_iff {n : Node} {p : Pointer} :
    n.pointer? = some p ↔ ∃ reference ∈ n.reference, ∃ rest, reference.toList = '#' :: rest ∧
      Pointer.parse (String.ofList rest) = .ok p := by
  simp only [pointer?, Option.bind_eq_some_iff, pointerOf?_eq_some_iff, Option.mem_def]

/-- The name of a component is read from the pointer to the component. -/
theorem componentName?_eq_some_iff {n : Node} {name : String} :
    n.componentName? = some name ↔ n.pointer? = some ⟨["components", "schemas", name]⟩ := by
  rw [pointer?_eq_some_iff]
  unfold componentName?
  dsimp only [bind, Option.bind]
  constructor
  · intro h
    cases href : n.reference with
    | none =>
      rw [href] at h
      cases h
    | some reference =>
      rw [href] at h
      dsimp only at h
      split at h
      · rename_i rest hrest
        split at h
        · rename_i hparse
          cases h
          exact ⟨reference, rfl, rest, hrest, hparse⟩
        · cases h
      · cases h
  · rintro ⟨reference, href, rest, hrest, hparse⟩
    rw [Option.mem_def.1 href]
    simp only [hrest, hparse]

/-- A node's reference is read as a pointer with segments exactly if it is a number sign and the parts
for the segments, with a slash before each. -/
theorem pointer?_ofReference {reference : String} {segments : List String} (h : segments ≠ []) :
    (ofReference reference).pointer? = some ⟨segments⟩ ↔
      ∃ w, reference.toList = '#' :: '/' :: w ∧
        (w.splitOn '/').map Pointer.segmentOf = segments := by
  have hreference : (ofReference reference).reference = some reference := rfl
  simp only [pointer?_eq_some_iff, hreference, Option.mem_some_iff, exists_eq_left']
  constructor
  · rintro ⟨rest, hrest, hparse⟩
    obtain ⟨w, rfl⟩ := Pointer.exists_of_parse_eq_ok h hparse
    rw [Pointer.parse_slash] at hparse
    exact ⟨w, hrest, congrArg Pointer.segments (Except.ok.inj hparse)⟩
  · rintro ⟨w, hw, hsegments⟩
    exact ⟨'/' :: w, hw, by rw [Pointer.parse_slash, hsegments]⟩

/-- The reference that is made for a name is read back as the pointer to the schema of that name. -/
theorem pointer?_named (name : String) :
    (ofReference ("#/components/schemas/" ++ Pointer.escape name)).pointer? =
      some ⟨["components", "schemas", name]⟩ := by
  have hslash : '/' ∉ (Pointer.escape name).toList := by
    unfold Pointer.escape
    rw [String.toList_ofList]
    exact Pointer.slash_notMem_escapeChars _
  refine (pointer?_ofReference (List.cons_ne_nil _ _)).2
    ⟨"components".toList ++ '/' :: ("schemas".toList ++ '/' :: (Pointer.escape name).toList), ?_, ?_⟩
  · rw [String.toList_append]
    rfl
  · rw [Pointer.splitOn_slash_append, Pointer.splitOn_slash_append,
      List.splitOn_eq_singleton hslash]
    have hwords : "components".toList.splitOn '/' = ["components".toList] ∧
        "schemas".toList.splitOn '/' = ["schemas".toList] := by
      decide
    rw [hwords.1, hwords.2]
    simp only [List.cons_append, List.nil_append, List.map_cons, List.map_nil,
      Pointer.segmentOf_escape]
    rfl

end Node

namespace Ref

/-- The reference is spelled out: blanks, a number sign, parts after slashes, and blanks again. The
parts stand for texts. -/
structure Spells (r : Ref) (lead : List Char) (parts decoded : List (List Char))
    (trail : List Char) : Prop where
  text : r.text.toList = lead ++ ('#' :: (Pointer.slashed parts ++ trail))
  trim : Text.trim r.text.toList = '#' :: Pointer.slashed parts
  blank_lead : ∀ c ∈ lead, Text.isBlank c = true
  blank_trail : ∀ c ∈ trail, Text.isBlank c = true
  slash_notMem : ∀ part ∈ parts, '/' ∉ part
  decodes : List.Forall₂ (fun part cs => Text.Percent.decode? part = some cs) parts decoded

variable {r : Ref} {lead trail w : List Char} {parts decoded : List (List Char)}

/-- A reference that holds a pointer with segments spells them out. -/
theorem exists_spells {p : Pointer} (h : r.pointer = .ok p) (hp : p.segments ≠ []) :
    ∃ lead parts decoded trail, r.Spells lead parts decoded trail ∧
      p.segments = decoded.map Pointer.segmentOf := by
  obtain ⟨lead, trail, htext, hlead, htrail⟩ := Text.exists_eq_trim r.text.toList
  unfold pointer at h
  split at h
  · rename_i fragment htrim
    cases hparse : Pointer.parseFragment (String.ofList fragment) with
    | error e =>
      rw [hparse] at h
      cases h
    | ok p' =>
      rw [hparse] at h
      cases h
      rcases Pointer.exists_of_parseFragment hparse with
        ⟨-, hempty⟩ | ⟨parts, decoded, rfl, hparts, hdecoded, hsegments⟩
      · exact absurd hempty hp
      · refine ⟨lead, parts, decoded, trail, ⟨?_, htrim, hlead, htrail, hparts, hdecoded⟩, hsegments⟩
        rw [htrim] at htext
        exact htext
  · cases h

namespace Spells

theorem decodeLossy (h : r.Spells lead parts decoded trail) :
    Text.Percent.decodeLossy r.text.toList =
      lead ++ ('#' :: (Pointer.slashed decoded ++ trail)) := by
  have hhead : ∀ c ∈ trail.head?, Text.hexDigit? c = none := fun c hc =>
    Text.hexDigit?_of_isBlank (h.blank_trail c (List.mem_of_mem_head? hc))
  have htrail : Text.Percent.decodeLossy (trail ++ []) = trail ++ [] :=
    Text.Percent.decodeLossy_append_blanks h.blank_trail []
  rw [List.append_nil] at htrail
  rw [h.text, Text.Percent.decodeLossy_append_blanks h.blank_lead,
    Text.Percent.decodeLossy_cons (by decide),
    Pointer.decodeLossy_slashed h.decodes hhead, htrail]

/-- Where the decoded reference begins with the number sign, no blanks were before it. -/
theorem of_decodeLossy (h : r.Spells lead parts decoded trail)
    (hw : Text.Percent.decodeLossy r.text.toList = '#' :: w) :
    lead = [] ∧ Pointer.slashed decoded ++ trail = w := by
  rw [h.decodeLossy] at hw
  cases lead with
  | nil => exact ⟨rfl, (List.cons.inj hw).2⟩
  | cons c lead =>
    have hc := h.blank_lead c List.mem_cons_self
    exact absurd (List.cons.inj hw).1 (Text.ne_of_isBlank hc (by decide) (by decide))

end Spells

end Ref

namespace Document

variable {d : Document} {r : Ref} {s : Schema} {p : Pointer}

/-- A reference that resolves, but to no named schema, has three segments at least, as all the schemas
before are definitions. -/
theorem three_le_length_of_resolve (h : d.resolve Schema r = .ok s) (hnone : r.schemaName? = none)
    (hp : r.pointer = .ok p) : 3 ≤ p.segments.length := by
  obtain ⟨place, hstep⟩ := exists_stepFrom_of_resolve h
  obtain ⟨p', hp', hfollow⟩ := exists_target_of_stepFrom hstep
  cases hp.symm.trans hp'
  by_contra hshort
  obtain ⟨definition, hsegments, _⟩ := Target.exists_definition_of_follow (by omega) hfollow
  unfold Ref.schemaName? at hnone
  rw [hp] at hnone
  dsimp only at hnone
  rw [hsegments] at hnone
  cases hnone

/-- Of a reference that resolves, but to no named schema, the decoded text is no pointer to a named
schema either. -/
theorem componentName?_decoded (h : d.resolve Schema r = .ok s) (hnone : r.schemaName? = none)
    (name : String) :
    (Node.ofReference (String.ofList (Text.Percent.decodeLossy r.text.toList))).componentName? ≠
      some name := by
  intro hname
  obtain ⟨w, hw, hsegments⟩ := (Node.pointer?_ofReference (List.cons_ne_nil _ _)).1
    (Node.componentName?_eq_some_iff.1 hname)
  rw [String.toList_ofList] at hw
  obtain ⟨place, hstep⟩ := exists_stepFrom_of_resolve h
  obtain ⟨p, hp, -⟩ := exists_target_of_stepFrom hstep
  have hlength := three_le_length_of_resolve h hnone hp
  obtain ⟨lead, parts, decoded, trail, hspells, hp'⟩ := Ref.exists_spells hp
    (List.ne_nil_of_length_pos (by omega))
  obtain ⟨-, hw⟩ := hspells.of_decodeLossy hw
  rw [hp', List.length_map] at hlength
  -- So the decoded text has just these three segments, and they name a schema.
  have hthree := congrArg List.length hsegments
  rw [List.length_map] at hthree
  obtain ⟨a, b, c, hsplit⟩ := List.length_eq_three.1 hthree
  obtain ⟨c', hc'⟩ := Pointer.eq_of_splitOn_slashed hlength hw hsplit
  have hnamed : Ref.namedSchema? p.segments = none := by
    unfold Ref.schemaName? at hnone
    rw [hp] at hnone
    exact hnone
  rw [hsplit] at hsegments
  rw [hp', hc'] at hnamed
  simp only [List.map_cons, List.map_nil, List.cons.injEq, and_true] at hsegments hnamed
  rw [hsegments.1, hsegments.2.1] at hnamed
  cases hnamed

/-- The node of a reference that resolves refers to the schema that the reference names, if it names
one. -/
theorem componentName?_normalized (h : d.resolve Schema r = .ok s) :
    (Node.ofReference r.normalized).componentName? = r.schemaName? := by
  unfold Ref.normalized
  cases hname : r.schemaName? with
  | some name => exact Node.componentName?_eq_some_iff.2 (Node.pointer?_named name)
  | none => exact Option.eq_none_iff_forall_ne_some.2 (componentName?_decoded h hname)

end Document

end ApiShape
