import ApiShape.Document.Reference
import ApiShape.Proofs.Pointer.Segments

/-!
# References to named schemas

Named schemas lie in the components of a document, or among its definitions. A text that points right at
one in the components can be changed to point at one of the same name in the definitions, and can be
told from what it is changed to.
-/

namespace ApiShape

/-- The text points right at a named schema of the components: after the start there is one segment,
which is percent-encoded UTF-8. -/
def NamesComponent (text : String) : Prop :=
  ∃ segment : String, text = "#/components/schemas/" ++ segment ∧ '/' ∉ segment.toList ∧
    (Text.Percent.decode? segment.toList).isSome = true

/-- The text with the schemas of the components moved to the definitions. Only the start of the text
counts. -/
def relocated (text : String) : String :=
  match "#/components/schemas/".toList.isPrefixOf? text.toList with
  | some rest => "#/definitions/" ++ String.ofList rest
  | none => text

/-! ## Texts -/

variable {text other : String}

theorem namesComponent_iff :
    NamesComponent text ↔ ∃ rest ∈ "#/components/schemas/".toList.isPrefixOf? text.toList,
      '/' ∉ rest ∧ (Text.Percent.decode? rest).isSome = true := by
  constructor
  · rintro ⟨segment, rfl, hslash, hsome⟩
    refine ⟨segment.toList, ?_, hslash, hsome⟩
    rw [String.toList_append]
    rfl
  · rintro ⟨rest, hrest, hslash, hsome⟩
    have hlist : (String.ofList rest).toList = rest := String.toList_ofList
    refine ⟨String.ofList rest, ?_, by rwa [hlist], by rwa [hlist]⟩
    refine String.toList_inj.1 ?_
    rw [String.toList_append, hlist]
    exact (List.append_eq_of_isPrefixOf?_eq_some hrest).symm

instance : Decidable (NamesComponent text) :=
  decidable_of_iff _ namesComponent_iff.symm

theorem relocated_append (rest : String) :
    relocated ("#/components/schemas/" ++ rest) = "#/definitions/" ++ rest := by
  have hrest : "#/components/schemas/".toList.isPrefixOf?
      ("#/components/schemas/" ++ rest).toList = some rest.toList := by
    rw [String.toList_append]
    rfl
  unfold relocated
  rw [hrest]
  dsimp only
  rw [String.ofList_toList]

/-- A text that does not go on with `c` after a number sign and a slash is left as it is. -/
theorem relocated_of_ne {c : Char} {rest : List Char} (hc : c ≠ 'c')
    (htext : text.toList = '#' :: '/' :: c :: rest) : relocated text = text := by
  have hstart : "#/components/schemas/".toList =
      '#' :: '/' :: 'c' :: "omponents/schemas/".toList := rfl
  unfold relocated
  rw [htext, hstart]
  simp [List.isPrefixOf?, hc.symm]

/-- Texts that point at named schemas of the components are changed to different texts. -/
theorem relocated_eq_iff (h : NamesComponent text) (h' : NamesComponent other) :
    relocated text = relocated other ↔ text = other := by
  obtain ⟨segment, rfl, -, -⟩ := h
  obtain ⟨segment', rfl, -, -⟩ := h'
  rw [relocated_append, relocated_append, String.append_right_inj, String.append_right_inj]

/-! ## Pointers -/

/-- The pointer of a text whose last segment may have blanks after it. -/
theorem Ref.pointer_of_slashed {r : Ref} (parts : List (List Char)) {last : List Char}
    {names : List String} {name : String}
    (htext : r.text.toList = '#' :: Pointer.slashed (parts ++ [last]))
    (hparts : ∀ part ∈ parts, '/' ∉ part) (hlast : '/' ∉ last)
    (hnames : Pointer.fragmentSegments parts = .ok names)
    (hname : Pointer.fragmentSegment (Text.trimEnd last) = .ok name) :
    r.pointer = .ok ⟨names ++ [name]⟩ := by
  have htrim : Text.trim r.text.toList =
      '#' :: Pointer.slashed (parts ++ [Text.trimEnd last]) := by
    rw [htext, Text.trim_cons (by decide), Pointer.slashed_append, Pointer.slashed_append]
    have hend := Text.trimEnd_append (c := '/') (by decide) ('#' :: Pointer.slashed parts) last
    simpa [Pointer.slashed] using hend
  have hslash : ∀ part ∈ parts ++ [Text.trimEnd last], '/' ∉ part := by
    intro part hpart
    rcases List.mem_append.1 hpart with hpart | hpart
    · exact hparts part hpart
    · obtain ⟨trail, hcs, -⟩ := Text.exists_eq_trimEnd last
      cases List.mem_singleton.1 hpart
      exact fun hmem => hlast (hcs ▸ List.mem_append_left _ hmem)
  unfold Ref.pointer
  rw [htrim]
  change (Pointer.parseFragment (String.ofList
    (Pointer.slashed (parts ++ [Text.trimEnd last])))).mapError _ = _
  rw [Pointer.parseFragment_slashed hslash, Pointer.fragmentSegments_concat hnames hname]
  rfl

/-- What points at a named schema of the components points at one of the same name in the definitions
once it is changed. -/
theorem NamesComponent.exists_pointer (h : NamesComponent text) :
    ∃ name, Ref.pointer ⟨text⟩ = .ok ⟨["components", "schemas", name]⟩ ∧
      Ref.pointer ⟨relocated text⟩ = .ok ⟨["definitions", name]⟩ := by
  obtain ⟨segment, rfl, hslash, hsome⟩ := h
  obtain ⟨cs, hcs⟩ := Option.isSome_iff_exists.1 (Text.Percent.isSome_decode?_trimEnd hsome)
  have hname : Pointer.fragmentSegment (Text.trimEnd segment.toList) =
      .ok (Pointer.segmentOf cs) := by
    unfold Pointer.fragmentSegment
    rw [hcs]
    rfl
  rw [relocated_append]
  refine ⟨Pointer.segmentOf cs, ?_, ?_⟩
  · have htext : ("#/components/schemas/" ++ segment).toList =
        '#' :: Pointer.slashed (["components".toList, "schemas".toList] ++ [segment.toList]) := by
      rw [String.toList_append]
      simp [Pointer.slashed]
    exact Ref.pointer_of_slashed _ htext (by decide) hslash rfl hname
  · have htext : ("#/definitions/" ++ segment).toList =
        '#' :: Pointer.slashed (["definitions".toList] ++ [segment.toList]) := by
      rw [String.toList_append]
      simp [Pointer.slashed]
    exact Ref.pointer_of_slashed _ htext (by decide) hslash rfl hname

/-- Only references are changed, and to references. -/
theorem NamesComponent.parse (h : NamesComponent text) :
    Ref.parse text = .ok ⟨text⟩ ∧ Ref.parse (relocated text) = .ok ⟨relocated text⟩ := by
  obtain ⟨name, hpointer, hpointer'⟩ := h.exists_pointer
  unfold Ref.parse
  rw [hpointer, hpointer']
  exact ⟨rfl, rfl⟩

/-- The schema keeps its name. -/
theorem NamesComponent.schemaName?_relocated (h : NamesComponent text) :
    Ref.schemaName? ⟨relocated text⟩ = Ref.schemaName? ⟨text⟩ := by
  obtain ⟨name, hpointer, hpointer'⟩ := h.exists_pointer
  unfold Ref.schemaName?
  rw [hpointer, hpointer']
  rfl

theorem NamesComponent.name_relocated (h : NamesComponent text) :
    Ref.name ⟨relocated text⟩ = Ref.name ⟨text⟩ := by
  obtain ⟨name, hpointer, hpointer'⟩ := h.exists_pointer
  unfold Ref.name
  rw [hpointer, hpointer']
  rfl

end ApiShape
