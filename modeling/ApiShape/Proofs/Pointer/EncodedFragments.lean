import ApiShape.Proofs.Pointer.Segments
import ApiShape.Proofs.Report
import ApiShape.Proofs.Text.Encodings
import ApiShape.Proofs.Text.Slashes

/-!
# Fragments that are percent-encoded

A fragment is cut at its slashes before any part of it is decoded, and unescaped after. So segments are
read back whatever is percent-encoded in them, and a fragment is read as the text that it stands for as a
whole, as long as no slash is encoded in it. If it stands for no text, the first part that stands for none
is the error.
-/

namespace ApiShape.Pointer

open Text.Percent (StandsFor Encodes HasEncodedSlash octets)

variable {fragment part cs rest : List Char} {parts decoded : List (List Char)}

/-- The fragment writes the segments: after a slash each, a percent-encoding of the escaped text. -/
def Writes (fragment : List Char) (segments : List String) : Prop :=
  ∃ parts, fragment = slashed parts ∧
    List.Forall₂ (fun part segment =>
      Encodes (Text.Utf8.encode (escapeChars segment.toList)) (Text.Utf8.encode part)) parts segments

/-- The first of the parts that stands for no text. -/
def FirstIllFormed (parts : List (List Char)) (part : List Char) : Prop :=
  ∃ before after, parts = before ++ part :: after ∧ (∀ p ∈ before, ∃ cs, StandsFor p cs) ∧
    ∀ cs, ¬ StandsFor part cs

/-! ## Parts of a fragment -/

theorem fragmentSegment_of_standsFor (h : StandsFor part cs) :
    fragmentSegment part = .ok (segmentOf cs) := by
  unfold fragmentSegment
  rw [Text.Percent.decode?_eq_some_iff_standsFor.2 h]
  rfl

theorem fragmentSegment_of_illFormed (h : ∀ cs, ¬ StandsFor part cs) :
    fragmentSegment part = .error (.invalidUtf8 (String.ofList part)) := by
  have hnone : Text.Percent.decode? part = none := by
    rw [Option.eq_none_iff_forall_ne_some]
    intro cs hcs
    exact h cs (Text.Percent.decode?_eq_some_iff_standsFor.1 hcs)
  unfold fragmentSegment
  rw [hnone]

theorem fragmentSegments_of_standsFor (h : List.Forall₂ StandsFor parts decoded) :
    fragmentSegments parts = .ok (decoded.map segmentOf) := by
  induction h with
  | nil => rfl
  | cons hpart _ ih =>
    rw [fragmentSegments, fragmentSegment_of_standsFor hpart, ih]
    rfl

/-- The error of the first part that stands for no text is the error of all. -/
theorem fragmentSegments_of_firstIllFormed (h : FirstIllFormed parts part) :
    fragmentSegments parts = .error (.invalidUtf8 (String.ofList part)) := by
  obtain ⟨before, after, rfl, hbefore, hpart⟩ := h
  induction before with
  | nil =>
    rw [List.nil_append, fragmentSegments, fragmentSegment_of_illFormed hpart]
    rfl
  | cons p before ih =>
    rw [List.forall_mem_cons] at hbefore
    obtain ⟨⟨cs, hcs⟩, hbefore⟩ := hbefore
    rw [List.cons_append, fragmentSegments, fragmentSegment_of_standsFor hcs, ih hbefore]
    rfl

/-- Either all parts stand for texts, or there is a first one that does not. -/
theorem exists_forall₂_or_firstIllFormed (parts : List (List Char)) :
    (∃ decoded, List.Forall₂ StandsFor parts decoded) ∨ ∃ part, FirstIllFormed parts part := by
  induction parts with
  | nil => exact .inl ⟨[], .nil⟩
  | cons p rest ih =>
    by_cases hp : ∃ cs, StandsFor p cs
    · rcases ih with ⟨decoded, hdecoded⟩ | ⟨part, before, after, hrest, hbefore, hpart⟩
      · obtain ⟨cs, hcs⟩ := hp
        exact .inl ⟨cs :: decoded, .cons hcs hdecoded⟩
      · refine .inr ⟨part, p :: before, after, ?_, ?_, hpart⟩
        · rw [hrest, List.cons_append]
        · exact List.forall_mem_cons.2 ⟨hp, hbefore⟩
    · exact .inr ⟨p, [], rest, rfl, List.forall_mem_nil _, not_exists.1 hp⟩

/-! ## A fragment as a whole -/

/-- A slash is encoded where none divides the parts. -/
theorem hasEncodedSlash_slashed_iff : HasEncodedSlash (cs ++ slashed parts) ↔
    HasEncodedSlash cs ∨ ∃ part ∈ parts, HasEncodedSlash part := by
  induction parts generalizing cs with
  | nil => simp [slashed]
  | cons part rest ih =>
    rw [slashed_cons, Text.Percent.hasEncodedSlash_append_cons_iff (by decide), ih,
      List.exists_mem_cons_iff]

/-- The octets of a fragment are those of its parts, and the slashes between them. -/
theorem octets_slashed_cons (part : List Char) (rest : List (List Char)) :
    octets (slashed (part :: rest)) = 0x2F :: (octets part ++ octets (slashed rest)) := by
  have hhead : ∀ c ∈ (slashed rest).head?, Text.hexDigit? c = none := by
    cases rest with
    | nil => nofun
    | cons part' rest =>
      rw [slashed_cons]
      rintro _ ⟨⟩
      rfl
  rw [slashed_cons, Text.Percent.octets_cons (fun hc => absurd hc (by decide)),
    Text.Percent.octets_append hhead]
  rfl

/-- Where the parts stand for texts, the fragment stands for the texts with a slash before each. -/
theorem standsFor_slashed (h : List.Forall₂ StandsFor parts decoded) :
    StandsFor (slashed parts) (slashed decoded) := by
  induction h with
  | nil => rfl
  | @cons part cs parts decoded hpart _ ih =>
    unfold StandsFor at hpart ih ⊢
    rw [octets_slashed_cons, hpart, ih, slashed_cons, Text.Utf8.encode_cons, Text.Utf8.encode_append]
    rfl

/-- What a fragment stands for falls into texts that its parts stand for. -/
theorem exists_of_standsFor_slashed (h : StandsFor (slashed parts) cs) :
    ∃ decoded, List.Forall₂ StandsFor parts decoded ∧ cs = slashed decoded := by
  unfold StandsFor at h
  induction parts generalizing cs with
  | nil => exact ⟨[], .nil, Text.Utf8.encode_eq_nil_iff.1 h.symm⟩
  | cons part rest ih =>
    rw [octets_slashed_cons] at h
    obtain ⟨before, after, rfl, hbefore, hafter⟩ :=
      Text.Utf8.exists_of_encode_eq_slash (h.symm.trans (List.nil_append _).symm)
    rw [Text.Utf8.encode_eq_nil_iff.1 hbefore.symm, List.nil_append]
    cases rest with
    | nil =>
      have hpart : StandsFor part after := by
        show octets part = Text.Utf8.encode after
        rw [← hafter]
        exact (List.append_nil _).symm
      have hlast : '/' :: after = slashed [after] := by
        rw [slashed_cons]
        exact congrArg _ (List.append_nil _).symm
      exact ⟨[after], .cons hpart .nil, hlast⟩
    | cons part' rest =>
      -- The next part begins with a slash, so the text of this one ends before a slash.
      rw [octets_slashed_cons] at hafter
      obtain ⟨cs, more, rfl, hpart, hmore⟩ := Text.Utf8.exists_of_encode_eq_slash hafter.symm
      have hnext : octets (slashed (part' :: rest)) = Text.Utf8.encode ('/' :: more) := by
        rw [octets_slashed_cons, hmore]
        rfl
      obtain ⟨decoded, hdecoded, heq⟩ := ih hnext
      exact ⟨cs :: decoded, .cons hpart hdecoded, by rw [slashed_cons, heq]⟩

/-! ## Fragments that begin with no slash -/

/-- A text that begins with anything else than a slash has no segments. -/
theorem split_of_no_slash {c : Char} (hc : c ≠ '/') (rest : List Char) :
    split (String.ofList (c :: rest)) = .error .missingSlash := by
  unfold split
  rw [String.toList_ofList]
  split
  · rename_i heq
    cases heq
  · rename_i heq
    exact absurd (List.cons.inj heq).1 hc
  · rfl

/-- What begins with no slash, and with the escape of none, stands for a text that begins with none. -/
theorem exists_of_standsFor_cons {c : Char} (hc : c ≠ '/') (hencoded : ¬ HasEncodedSlash (c :: rest))
    (h : StandsFor (c :: rest) cs) : ∃ c' rest', cs = c' :: rest' ∧ c' ≠ '/' := by
  obtain ⟨b, more, hoctets, hb⟩ := Text.Percent.exists_of_octets_cons hc hencoded
  have hcs : b :: more = Text.Utf8.encode cs := hoctets.symm.trans h
  cases cs with
  | nil => cases hcs
  | cons c' rest' =>
    refine ⟨c', rest', rfl, ?_⟩
    rintro rfl
    exact hb (List.cons.inj hcs).1

/-! ## Fragments that are read -/

/-- What is written in the place of a segment has no slash, and stands for the segment's escaped text. -/
theorem standsFor_of_encodes (h : Encodes (Text.Utf8.encode (escapeChars cs)) (Text.Utf8.encode part)) :
    '/' ∉ part ∧ StandsFor part (escapeChars cs) := by
  constructor
  · intro hmem
    have hslash : 0x2F ∈ Text.Utf8.encode part :=
      (Text.Utf8.mem_encode_iff (d := '/') (by decide)).2 hmem
    have hescaped := (Text.Utf8.mem_encode_iff (d := '/') (by decide)).1 (h.slash_mem hslash)
    exact slash_notMem_escapeChars cs hescaped
  · exact Text.Percent.octets_of_encodes h

/-- What writes segments is read as the segments. -/
theorem parseFragment_of_writes {segments : List String} (h : Writes fragment segments) :
    parseFragment (String.ofList fragment) = .ok ⟨segments⟩ := by
  obtain ⟨parts, rfl, hparts⟩ := h
  have hboth := hparts.imp fun _ _ h => standsFor_of_encodes h
  rw [List.forall₂_and_left] at hboth
  obtain ⟨hslash, hstands⟩ := hboth
  have hsegments := fragmentSegments_of_standsFor (List.forall₂_map_right_iff.2 hstands)
  rw [map_segmentOf_escapeChars] at hsegments
  rw [parseFragment_slashed hslash, hsegments]
  rfl

/-- A fragment without an encoded slash is read as what it stands for. -/
theorem parseFragment_of_standsFor (hencoded : ¬ HasEncodedSlash fragment)
    (h : StandsFor fragment cs) :
    parseFragment (String.ofList fragment) = parse (String.ofList cs) := by
  cases fragment with
  | nil =>
    rw [Text.Utf8.encode_eq_nil_iff.1 h.symm]
    rfl
  | cons c rest =>
    by_cases hc : c = '/'
    · subst hc
      rw [← slashed_splitOn] at h hencoded ⊢
      obtain ⟨decoded, hdecoded, rfl⟩ := exists_of_standsFor_slashed h
      have hslash : ∀ part ∈ rest.splitOn '/', '/' ∉ part := slash_notMem_of_mem_splitOn rest
      -- No part brings a slash into its text, so the text falls into as many parts.
      have hslash' : ∀ cs ∈ decoded, '/' ∉ cs := by
        intro cs hcs hmem
        obtain ⟨part, hpart, hstands⟩ := exists_left_of_forall₂ hdecoded hcs
        have hdecode := Text.Percent.decode?_eq_some_iff_standsFor.2 hstands
        rcases (Text.Percent.slash_mem_iff_of_decode? hdecode).1 hmem with hmem | hpartEncoded
        · exact hslash part hpart hmem
        · rw [← List.nil_append (slashed _), hasEncodedSlash_slashed_iff] at hencoded
          exact hencoded (.inr ⟨part, hpart, hpartEncoded⟩)
      rw [parseFragment_slashed hslash, fragmentSegments_of_standsFor hdecoded, parse_slashed hslash']
      rfl
    · -- Neither the fragment nor the text begins with a slash.
      obtain ⟨c', rest', rfl, hc'⟩ := exists_of_standsFor_cons hc hencoded h
      unfold parseFragment parse
      rw [split_of_no_slash hc, split_of_no_slash hc']
      rfl

/-- A fragment that stands for no text is read as the error of its first part that stands for none. -/
theorem exists_firstIllFormed (h : ∀ cs, ¬ StandsFor ('/' :: rest) cs) :
    ∃ part, FirstIllFormed (rest.splitOn '/') part ∧
      parseFragment (String.ofList ('/' :: rest)) = .error (.invalidUtf8 (String.ofList part)) := by
  rw [← slashed_splitOn] at h ⊢
  rcases exists_forall₂_or_firstIllFormed (rest.splitOn '/') with ⟨decoded, hdecoded⟩ | ⟨part, hpart⟩
  · exact absurd (standsFor_slashed hdecoded) (h _)
  · refine ⟨part, hpart, ?_⟩
    rw [parseFragment_slashed (slash_notMem_of_mem_splitOn rest),
      fragmentSegments_of_firstIllFormed hpart]
    rfl

/-- Percent-encoding and pointers: segments are read back from every fragment that writes them, whichever
octets of theirs are escapes, as long as percent signs are. A fragment in which no slash is encoded is read
like the text that it stands for, as the same pointer or with the same error. If it begins with a slash and
its octets are not UTF-8, the error names the first part, as written, whose octets are not. -/
theorem parseFragment_encoded :
    (∀ (fragment : String) (segments : List String), Writes fragment.toList segments →
      parseFragment fragment = .ok ⟨segments⟩) ∧
    ∀ fragment : String,
      (∀ decoded : String, ¬ HasEncodedSlash fragment.toList →
        StandsFor fragment.toList decoded.toList → parseFragment fragment = parse decoded) ∧
      ∀ rest : List Char, fragment.toList = '/' :: rest →
        (∀ cs, ¬ StandsFor fragment.toList cs) →
        ∃ part, FirstIllFormed (rest.splitOn '/') part ∧
          parseFragment fragment = .error (.invalidUtf8 (String.ofList part)) := by
  refine ⟨?_, fun fragment => ⟨?_, ?_⟩⟩
  · intro fragment segments h
    rw [← parseFragment_of_writes h, String.ofList_toList]
  · intro decoded hencoded h
    have hread := parseFragment_of_standsFor hencoded h
    rwa [String.ofList_toList, String.ofList_toList] at hread
  · intro rest hfragment h
    rw [hfragment] at h
    have herror := exists_firstIllFormed h
    rwa [← hfragment, String.ofList_toList] at herror

/-- Octets of one character as escapes beside an escaped slash and a percent sign; a percent sign that the
slash after it keeps from being an escape; and octets of two parts that are not UTF-8. -/
theorem parseFragment_encoded_price :
    Writes "/%C3%a9~1%25".toList ["é/%"] ∧ parseFragment "/%C3%a9~1%25" = .ok ⟨["é/%"]⟩ ∧
      ¬ HasEncodedSlash "/5%/2F%E2%82%AC".toList ∧
      parseFragment "/5%/2F%E2%82%AC" = parse "/5%/2F€" ∧
      (∀ cs, ¬ StandsFor "/a/%FF/%C3".toList cs) ∧
      ∃ part, FirstIllFormed [['a'], ['%', 'F', 'F'], ['%', 'C', '3']] part ∧
        parseFragment "/a/%FF/%C3" = .error (.invalidUtf8 (String.ofList part)) := by
  have hwrites : Writes "/%C3%a9~1%25".toList ["é/%"] := by
    have hprice : Encodes [0xC3, 0xA9, 0x7E, 0x31, 0x25]
        (Text.Utf8.encode ['%', 'C', '3'] ++ (Text.Utf8.encode ['%', 'a', '9'] ++
          0x7E :: 0x31 :: (Text.Utf8.encode ['%', '2', '5'] ++ []))) :=
      .escape (by decide) (by decide) <| .escape (by decide) (by decide) <|
        .plain (by decide) <| .plain (by decide) <| .escape (by decide) (by decide) .nil
    exact ⟨["%C3%a9~1%25".toList], rfl, .cons hprice .nil⟩
  have hencoded : ¬ HasEncodedSlash "/5%/2F%E2%82%AC".toList := by decide +kernel
  have hstands : StandsFor "/5%/2F%E2%82%AC".toList "/5%/2F€".toList := by rfl
  have hill : ∀ cs, ¬ StandsFor "/a/%FF/%C3".toList cs := by
    intro cs h
    have hdecode := Text.Percent.decode?_eq_some_iff_standsFor.2 h
    have hnone : Text.Percent.decode? "/a/%FF/%C3".toList = none := by rfl
    rw [hnone] at hdecode
    cases hdecode
  refine ⟨hwrites, parseFragment_encoded.1 _ _ hwrites, hencoded, ?_, hill, ?_⟩
  · exact (parseFragment_encoded.2 _).1 _ hencoded hstands
  · exact (parseFragment_encoded.2 _).2 "a/%FF/%C3".toList rfl hill

end ApiShape.Pointer
