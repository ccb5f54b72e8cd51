import ApiShape.Proofs.Document.DistinctNames
import ApiShape.Proofs.Pointer.Positions

/-!
# Where locations lead

A location names the segments that lead to a part, whether or not a pointer can go there. It looks
through references, goes on from a parameter without a schema as if that had one, and counts without
end. Apart from these detours it is a pointer to the part.
-/

namespace ApiShape

/-! ## Detours -/

/-- A location may go on with the segments from the part, where no pointer does: the part is a reference,
or a parameter without the schema that is next, or a list, and the next position in it is greater than
any that a pointer can count to. -/
inductive Target.Diverts : Target → List String → Prop
  | reference (kind : ComponentKind) (r : Ref) (rest : List String) :
      Diverts (.reference kind r) rest
  | schema {p : Document.Parameter} (h : p.schema = none) (rest : List String) :
      Diverts (.parameter p) ("schema" :: rest)
  | position {t : Target} {parts : List Target} {i : Nat} (hview : Pointee.view t = .indexed parts)
      (hi : Pointer.indexBound ≤ i) (rest : List String) :
      Diverts t (toString i :: rest)

theorem Target.Diverts.append {t : Target} {segments : List String} (h : t.Diverts segments)
    (more : List String) : t.Diverts (segments ++ more) := by
  cases h with
  | reference kind r => exact .reference kind r _
  | schema h rest => exact .schema h (rest ++ more)
  | position hview hi rest => exact .position hview hi (rest ++ more)

namespace Document

variable {d : Document} {p : List String} {t u : Target} {s : Schema}

/-- A pointer that goes the way of the location comes to where the location takes a detour. -/
def Detours (d : Document) (p : Pointer) : Prop :=
  ∃ before after t, p.segments = before ++ after ∧
    Pointer.follow (Target.document d) before = .ok t ∧ t.Diverts after

theorem Detours.append (h : d.Detours ⟨p⟩) (more : List String) : d.Detours ⟨p ++ more⟩ := by
  obtain ⟨before, after, t, rfl, ht, hafter⟩ := h
  exact ⟨before, after ++ more, t, List.append_assoc .., ht, hafter.append more⟩

theorem detours_of_follow {after : List String} (ht : Pointer.follow (Target.document d) p = .ok t)
    (hafter : t.Diverts after) : d.Detours ⟨p ++ after⟩ :=
  ⟨p, after, t, rfl, ht, hafter⟩

/-- The segments lead to the part, or else they take a detour. -/
def Heads (d : Document) (p : List String) (t : Target) : Prop :=
  Pointer.follow (Target.document d) p = .ok t ∨ d.Detours ⟨p⟩

theorem Heads.of_step {segment : String} (h : d.Heads p t)
    (hstep : Pointer.follow (Target.document d) p = .ok t →
      Pointer.step t segment [] = .ok u ∨ t.Diverts [segment]) : d.Heads (p ++ [segment]) u := by
  rcases h with ht | hdetour
  · rcases hstep ht with hu | hdiverts
    · refine .inl (Pointer.follow_append.2 ⟨t, ht, ?_⟩)
      exact Pointer.follow_cons_eq_ok.2 ⟨u, hu, rfl⟩
    · exact .inr (detours_of_follow ht hdiverts)
  · exact .inr (hdetour.append _)

/-- The part of a key. -/
theorem Heads.key {entries : Dict Target} {segment : String} (h : d.Heads p t)
    (hview : Pointee.view t = .keyed entries) (hget : entries.get? segment = some u) :
    d.Heads (p ++ [segment]) u :=
  h.of_step fun _ => .inl (Pointer.step_of_key hview hget [])

/-- The part of a key that need not be there. -/
theorem Heads.optional {α : Type} {part : α → Target} {entries : Dict Target} {segment : String}
    {a : Option α} {b : α} (h : d.Heads p t) (ha : a = some b)
    (hview : Pointee.view t = .keyed entries)
    (hget : entries.get? segment = some (Target.ofOption part a)) :
    d.Heads (p ++ [segment]) (part b) := by
  subst ha
  exact h.key hview hget

/-- The part of a key that is there once. -/
theorem Heads.entry {α : Type} {part : α → Target} {named : Dict α} {name : String} {a : α}
    (h : d.Heads p t) (hview : Pointee.view t = .keyed (Target.entries part named))
    (hnamed : named.Distinct) (hmem : (name, a) ∈ named) : d.Heads (p ++ [name]) (part a) := by
  refine h.key hview ?_
  have hget : Dict.get? (Target.entries part named) name = (named.get? name).map part :=
    Dict.get?_map part named name
  rw [hget, Dict.get?_eq_some_of_mem hnamed hmem]
  rfl

/-- The part at a position. -/
theorem Heads.item {α : Type} {part : α → Target} {items : List α} {i : Nat} {a : α}
    (h : d.Heads p t) (hview : Pointee.view t = .indexed (items.map part))
    (hmem : (a, i) ∈ items.zipIdx) : d.Heads (p ++ [toString i]) (part a) := by
  refine h.of_step fun _ => ?_
  rcases Nat.lt_or_ge i Pointer.indexBound with hi | hi
  · refine .inl (Pointer.step_of_position hview (Pointer.index?_toString hi) ?_ [])
    rw [List.getElem?_map, List.mk_mem_zipIdx_iff_getElem?.1 hmem]
    rfl
  · exact .inr (.position hview hi [])

/-- What stands at a place, unless the place only refers to it. -/
theorem Heads.inline {α : Type} {kind : ComponentKind} {part : α → Target} {place : RefOr α}
    (h : d.Heads p (Target.atPlace kind part place)) :
    (∃ a, place = .inline a ∧ d.Heads p (part a)) ∨ d.Detours ⟨p⟩ := by
  cases place with
  | inline a => exact .inl ⟨a, rfl, h⟩
  | ref r =>
    right
    rcases h with ht | hdetour
    · have hdetours := detours_of_follow ht (.reference kind r [])
      rwa [List.append_nil] at hdetours
    · exact hdetour

/-! ## Parts of schemas -/

variable {place : RefOr Schema}

theorem Heads.property {name : String} (hd : d.DistinctNames) (h : d.Heads p (.schema s))
    (hmem : (name, place) ∈ s.properties.getD []) :
    d.Heads (p ++ ["properties", name]) (Target.atSchema place) := by
  rcases h with hs | hdetour
  · -- The schema is one of the document, so it has no property twice.
    have hdocument : ∀ place ∈ (Target.document d).places, d.HasPlace place :=
      fun place hplace => .inl hplace
    have hplaces := hasPlace_of_follow hdocument hs
    have hdistinct := hd s (hplaces _ (List.mem_singleton_self _)).mem_nestedSchemas
    cases hproperties : s.properties with
    | none =>
      rw [hproperties] at hmem
      cases hmem
    | some named =>
      rw [hproperties] at hmem hdistinct
      have hnamed : d.Heads (p ++ ["properties"]) (.schemas named) :=
        Heads.optional (.inl hs) hproperties rfl rfl
      have hentry := hnamed.entry rfl hdistinct hmem
      rwa [List.append_assoc] at hentry
  · exact .inr (hdetour.append _)

theorem Heads.additional (h : d.Heads p (.schema s)) (hplace : s.additional = some (.schema place)) :
    d.Heads (p ++ ["additionalProperties"]) (Target.atSchema place) := by
  have hpart : d.Heads (p ++ ["additionalProperties"]) (Target.ofAdditional (.schema place)) :=
    h.optional hplace rfl rfl
  exact hpart

theorem Heads.items (h : d.Heads p (.schema s)) (hplace : s.items = some place) :
    d.Heads (p ++ ["items"]) (Target.atSchema place) :=
  h.optional hplace rfl rfl

theorem Heads.branch {keyword : String} {branches : List (RefOr Schema)} {i : Nat}
    (h : d.Heads p (.schema s))
    (hkeyword : (keyword, some branches) ∈
      [("allOf", s.allOf), ("anyOf", s.anyOf), ("oneOf", s.oneOf)])
    (hplace : (place, i) ∈ branches.zipIdx) :
    d.Heads (p ++ [keyword, toString i]) (Target.atSchema place) := by
  have hlist : d.Heads (p ++ [keyword]) (.schemaList branches) := by
    simp only [List.mem_cons, Prod.mk.injEq, List.not_mem_nil, or_false] at hkeyword
    rcases hkeyword with ⟨rfl, hbranches⟩ | ⟨rfl, hbranches⟩ | ⟨rfl, hbranches⟩
    · exact h.optional hbranches.symm rfl rfl
    · exact h.optional hbranches.symm rfl rfl
    · exact h.optional hbranches.symm rfl rfl
  have hitem := hlist.item rfl hplace
  rwa [List.append_assoc] at hitem

/-- What a reference resolves to is where its pointer leads, unless that is a reference again. -/
theorem heads_of_resolve {r : Ref} (h : d.resolve Schema r = .ok s) :
    ∃ q, r.pointer = .ok q ∧ d.Heads q.segments (.schema s) := by
  obtain ⟨place, hstep⟩ := exists_stepFrom_of_resolve h
  obtain ⟨q, hq, ht⟩ := exists_target_of_stepFrom hstep
  have hplace : d.Heads q.segments (Target.atSchema place) := .inl ht
  refine ⟨q, hq, ?_⟩
  rcases hplace.inline with ⟨a, rfl, ha⟩ | hdetour
  · have hs : a = s := by
      unfold resolve at h
      rw [followFrom, dif_pos List.mem_cons_self, hstep] at h
      exact Except.ok.inj h
    exact hs ▸ ha
  · exact .inr hdetour

end Document

end ApiShape
