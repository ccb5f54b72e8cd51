import ApiShape.Proofs.Alongside.Report
import ApiShape.Proofs.Document.SchemaNames
import ApiShape.Proofs.Normalize.Building
import ApiShape.Proofs.Pointer.EncodedFragments
import ApiShape.Proofs.Text.Slashes
import Mathlib

/-!
# References read back from nodes

A node's reference is read without percent-decoding. That gives back the pointer of the reference that
the node is made of if that one names a schema, as it is then written anew. Any other reference is
decoded as a whole, where a slash that was encoded comes to divide a segment, and keeps its blanks.
-/

namespace ApiShape

/-- The pointer, with a named schema among the definitions moved to the components. -/
def Pointer.toComponents : Pointer → Pointer
  | ⟨["definitions", name]⟩ => ⟨["components", "schemas", name]⟩
  | p => p

namespace Pointer

variable {p : Pointer}

theorem toComponents_of_namedSchema? {name : String} (h : Ref.namedSchema? p.segments = some name) :
    p.toComponents = ⟨["components", "schemas", name]⟩ := by
  obtain ⟨segments⟩ := p
  unfold Ref.namedSchema? at h
  dsimp only at h
  split at h
  · cases h
    rfl
  · cases h
    rfl
  · cases h

theorem toComponents_of_long (h : 3 ≤ p.segments.length) : p.toComponents = p := by
  unfold toComponents
  split
  · simp at h
  · rfl

end Pointer

namespace Ref

variable {r : Ref} {lead trail : List Char} {parts decoded : List (List Char)}

/-- There are no blanks around the reference, and no slash is encoded in it. -/
def IsPlain (r : Ref) : Prop :=
  Text.trim r.text.toList = r.text.toList ∧ ¬ Text.Percent.HasEncodedSlash r.text.toList

instance (r : Ref) : Decidable r.IsPlain :=
  inferInstanceAs (Decidable (_ ∧ _))

theorem Spells.trim_eq_iff (h : r.Spells lead parts decoded trail) :
    Text.trim r.text.toList = r.text.toList ↔ lead = [] ∧ trail = [] := by
  rw [h.trim, h.text]
  constructor
  · intro heq
    have hlength := congrArg List.length heq
    simp only [List.length_append, List.length_cons] at hlength
    exact ⟨List.length_eq_zero_iff.1 (by omega), List.length_eq_zero_iff.1 (by omega)⟩
  · rintro ⟨rfl, rfl⟩
    simp

/-- A part stands for a text with a slash exactly if a slash is encoded in it. -/
theorem Spells.slash_mem_decoded_iff (h : r.Spells lead parts decoded trail) :
    (∃ cs ∈ decoded, '/' ∈ cs) ↔ ∃ part ∈ parts, Text.Percent.HasEncodedSlash part := by
  have hpart {part cs : List Char} (hmem : part ∈ parts) (hdecode : Text.Percent.decode? part = some cs) :
      '/' ∈ cs ↔ Text.Percent.HasEncodedSlash part := by
    rw [Text.Percent.slash_mem_iff_of_decode? hdecode]
    exact or_iff_right (h.slash_notMem part hmem)
  have hmem := (List.forall₂_and_left _ _).2 ⟨fun _ => id, h.decodes⟩
  constructor
  · rintro ⟨cs, hcs, hslash⟩
    obtain ⟨part, -, hpartMem, hdecode⟩ := exists_left_of_forall₂ hmem hcs
    exact ⟨part, hpartMem, (hpart hpartMem hdecode).1 hslash⟩
  · rintro ⟨part, hpartMem, hslash⟩
    obtain ⟨cs, hcs, -, hdecode⟩ := exists_right_of_forall₂ hmem hpartMem
    exact ⟨cs, hcs, (hpart hpartMem hdecode).2 hslash⟩

theorem Spells.isPlain_iff (h : r.Spells lead parts decoded trail) :
    r.IsPlain ↔ lead = [] ∧ trail = [] ∧ ∀ cs ∈ decoded, '/' ∉ cs := by
  have hdecoded : (∀ cs ∈ decoded, '/' ∉ cs) ↔ ¬ ∃ cs ∈ decoded, '/' ∈ cs := by
    simp only [not_exists, not_and]
  unfold IsPlain
  rw [h.trim_eq_iff, and_assoc, hdecoded, h.slash_mem_decoded_iff]
  refine and_congr_right fun hlead => and_congr_right fun htrail => not_congr ?_
  subst hlead htrail
  rw [h.text, List.nil_append, List.append_nil]
  have hsign : Text.Percent.HasEncodedSlash (['#'] ++ Pointer.slashed parts) ↔ _ :=
    Pointer.hasEncodedSlash_slashed_iff
  exact hsign.trans (or_iff_right (by decide))

end Ref

namespace Document

variable {d : Document} {r : Ref} {s : Schema} {p : Pointer}

theorem pointer?_decoded_iff (h : d.resolve Schema r = .ok s) (hnone : r.schemaName? = none)
    (hp : r.pointer = .ok p) :
    (Node.ofReference (String.ofList (Text.Percent.decodeLossy r.text.toList))).pointer? = some p ↔
      r.IsPlain := by
  have hlength := three_le_length_of_resolve h hnone hp
  have hnil : p.segments ≠ [] := List.ne_nil_of_length_pos (by omega)
  obtain ⟨lead, parts, decoded, trail, hspells, hsegments⟩ := Ref.exists_spells hp hnil
  rw [hspells.isPlain_iff]
  refine (Node.pointer?_ofReference hnil).trans ?_
  rw [String.toList_ofList, hsegments]
  constructor
  · rintro ⟨w, hw, hread⟩
    obtain ⟨rfl, hw⟩ := hspells.of_decodeLossy hw
    obtain ⟨hslash, htrail⟩ := (Pointer.map_splitOn_slashed_iff hspells.blank_trail hw).1 hread
    exact ⟨rfl, htrail, hslash⟩
  · rintro ⟨rfl, rfl, hslash⟩
    have hdecoded : decoded ≠ [] := by
      rintro rfl
      exact hnil hsegments
    have hw := Pointer.slashed_eq_intercalate hdecoded
    refine ⟨['/'].intercalate decoded, ?_, ?_⟩
    · rw [hspells.decodeLossy, List.nil_append, List.append_nil, hw]
    · rw [List.splitOn_intercalate '/' hslash hdecoded]

/-- The node of a reference that resolves is read back as the pointer of the reference exactly if the
reference names a schema, or has no blanks around it and no encoded slash. A schema among the definitions
is read back as one among the components. -/
theorem pointer?_iff_of_resolve (h : d.resolve Schema r = .ok s) (location : String) :
    ∃ p n, r.pointer = .ok p ∧ (d.normalizeSchema (.ref r) location).result = .ok n ∧
      (n.pointer? = some p.toComponents ↔ r.schemaName?.isSome = true ∨ r.IsPlain) := by
  obtain ⟨place, hstep⟩ := exists_stepFrom_of_resolve h
  obtain ⟨p, hp, -⟩ := exists_target_of_stepFrom hstep
  have hnode : d.Normalizes none (.ref r) location (.ofReference r.normalized) :=
    normalizes_ref_iff.2 ⟨⟨s, h⟩, rfl⟩
  obtain ⟨steps, hnode⟩ := hnode
  refine ⟨p, .ofReference r.normalized, hp, ?_, ?_⟩
  · unfold normalizeSchema
    rw [normalizeWithin] at hnode ⊢
    exact hnode
  unfold Ref.normalized
  cases hname : r.schemaName? with
  | some name =>
    have hnamed : Ref.namedSchema? p.segments = some name := by
      unfold Ref.schemaName? at hname
      rw [hp] at hname
      exact hname
    rw [Pointer.toComponents_of_namedSchema? hnamed]
    exact iff_of_true (Node.pointer?_named name) (.inl rfl)
  | none =>
    rw [Pointer.toComponents_of_long (three_le_length_of_resolve h hname hp)]
    exact (pointer?_decoded_iff h hname hp).trans (or_iff_right Bool.false_ne_true).symm

/-- A rack with a place whose name has a slash in it. -/
def rackDocument : Document :=
  { components := some {
      schemas := [
        ("Rack", .inline { properties := some [("top/left", .inline { types := [.string] })] })] } }

theorem pointer?_iff_of_resolve_rack :
    rackDocument.resolve Schema ⟨"#/components/schemas/Rack/properties/top~1left"⟩ =
        .ok { types := [.string] } ∧
      ∃ p n, Ref.pointer ⟨"#/components/schemas/Rack/properties/top~1left"⟩ = .ok p ∧
        p.segments = ["components", "schemas", "Rack", "properties", "top/left"] ∧
        (rackDocument.normalizeSchema
          (.ref ⟨"#/components/schemas/Rack/properties/top~1left"⟩) "").result = .ok n ∧
        n.pointer? = some p.toComponents := by
  have hresolve : rackDocument.resolve Schema ⟨"#/components/schemas/Rack/properties/top~1left"⟩ =
      .ok { types := [.string] } := by cbv
  have hplain : Ref.IsPlain ⟨"#/components/schemas/Rack/properties/top~1left"⟩ := by decide +kernel
  obtain ⟨p, n, hp, hn, hread⟩ := pointer?_iff_of_resolve hresolve ""
  have hpointer : Ref.pointer ⟨"#/components/schemas/Rack/properties/top~1left"⟩ =
      .ok ⟨["components", "schemas", "Rack", "properties", "top/left"]⟩ := by cbv
  refine ⟨hresolve, p, n, hp, ?_, hn, hread.2 (.inr hplain)⟩
  rw [← Except.ok.inj (hpointer.symm.trans hp)]

/-- A slash that is encoded in a reference divides a segment when the node's reference is read back, and a
blank before a reference keeps it from being read back at all. -/
theorem not_pointer?_of_resolve_rack :
    rackDocument.resolve Schema ⟨"#/components/schemas/Rack/properties/top%2Fleft"⟩ =
        .ok { types := [.string] } ∧
      Ref.pointer ⟨"#/components/schemas/Rack/properties/top%2Fleft"⟩ =
        .ok ⟨["components", "schemas", "Rack", "properties", "top/left"]⟩ ∧
      (∃ n, (rackDocument.normalizeSchema
          (.ref ⟨"#/components/schemas/Rack/properties/top%2Fleft"⟩) "").result = .ok n ∧
        n.pointer? = some ⟨["components", "schemas", "Rack", "properties", "top", "left"]⟩) ∧
      rackDocument.resolve Schema ⟨" #/components/schemas/Rack/properties/top~1left"⟩ =
        .ok { types := [.string] } ∧
      ∃ n, (rackDocument.normalizeSchema
          (.ref ⟨" #/components/schemas/Rack/properties/top~1left"⟩) "").result = .ok n ∧
        n.pointer? = none := by
  refine ⟨by cbv, by cbv, ⟨.ofReference "#/components/schemas/Rack/properties/top/left", ?_, ?_⟩, by cbv,
    .ofReference " #/components/schemas/Rack/properties/top~1left", ?_, ?_⟩
  all_goals cbv

end Document

end ApiShape
