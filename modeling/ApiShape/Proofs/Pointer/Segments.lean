import ApiShape.Pointer.Basic
import ApiShape.Proofs.Text.Percent
import Mathlib.Data.List.Forall2

/-!
# Segments and their texts

A segment can be told from its escaped text, which has no slash. A fragment decoded as a whole has
the texts of the segments in it, and falls into more parts where a segment itself holds a slash.
-/

namespace ApiShape.Pointer

variable {cs w tail : List Char}

/-! ## Escapes -/

theorem escapeChars_cons {c : Char} (htilde : c ≠ '~') (hslash : c ≠ '/') (rest : List Char) :
    escapeChars (c :: rest) = c :: escapeChars rest := by
  rw [escapeChars]
  · exact htilde
  · exact hslash

theorem unescapeChars_cons {c : Char} (htilde : c ≠ '~') (rest : List Char) :
    unescapeChars (c :: rest) = c :: unescapeChars rest := by
  rw [unescapeChars]
  · exact fun _ h => absurd h htilde
  · exact fun _ h => absurd h htilde

theorem unescapeChars_escapeChars (cs : List Char) : unescapeChars (escapeChars cs) = cs := by
  induction cs using escapeChars.induct with
  | case1 => rfl
  | case2 rest ih => rw [escapeChars, unescapeChars, ih]
  | case3 rest ih => rw [escapeChars, unescapeChars, ih]
  | case4 c rest htilde hslash ih => rw [escapeChars_cons htilde hslash, unescapeChars_cons htilde, ih]

theorem slash_notMem_escapeChars (cs : List Char) : '/' ∉ escapeChars cs := by
  induction cs using escapeChars.induct with
  | case1 => exact List.not_mem_nil
  | case2 rest ih => simp [escapeChars, ih]
  | case3 rest ih => simp [escapeChars, ih]
  | case4 c rest htilde hslash ih =>
    rw [escapeChars_cons htilde hslash, List.mem_cons, not_or]
    exact ⟨fun h => hslash h.symm, ih⟩

/-- The segment that a text in a pointer stands for. -/
def segmentOf (cs : List Char) : String :=
  String.ofList (unescapeChars cs)

theorem segmentOf_escape (segment : String) : segmentOf (escape segment).toList = segment := by
  unfold segmentOf escape
  rw [String.toList_ofList, unescapeChars_escapeChars, String.ofList_toList]

theorem text_cons (segment : String) (rest : List String) :
    text ⟨segment :: rest⟩ = "/" ++ escape segment ++ text ⟨rest⟩ := by
  refine String.toList_inj.1 ?_
  unfold text chars escape
  simp only [List.flatMap_cons, String.toList_append, String.toList_ofList]
  rfl

theorem text_nil : text ⟨[]⟩ = "" := rfl

/-! ## Parts between slashes -/

theorem splitOn_slash_append (cs rest : List Char) :
    (cs ++ '/' :: rest).splitOn '/' = cs.splitOn '/' ++ rest.splitOn '/' :=
  List.splitOnP_append_cons cs rest (beq_self_eq_true '/')

/-- A text that has one part is that part. -/
theorem eq_of_splitOn_eq_singleton {part : List Char} (h : cs.splitOn '/' = [part]) : cs = part := by
  have hjoin : ['/'].intercalate (cs.splitOn '/') = cs := List.intercalate_splitOn '/'
  rw [h, List.intercalate_singleton] at hjoin
  exact hjoin.symm

theorem slash_notMem_of_mem_splitOn (cs : List Char) : ∀ part ∈ cs.splitOn '/', '/' ∉ part := by
  induction cs with
  | nil => simp
  | cons c rest ih =>
    rw [List.splitOn_cons_eq_if_modifyHead]
    split
    · exact List.forall_mem_cons.2 ⟨List.not_mem_nil, ih⟩
    · rename_i hc
      cases h : rest.splitOn '/' with
      | nil => exact absurd h (List.splitOn_ne_nil _ _)
      | cons first more =>
        rw [h, List.forall_mem_cons] at ih
        refine List.forall_mem_cons.2 ⟨?_, ih.2⟩
        rw [List.mem_cons, not_or]
        exact ⟨fun heq => hc (beq_iff_eq.2 heq.symm), ih.1⟩

/-- Parts with a slash before each. -/
def slashed (parts : List (List Char)) : List Char :=
  parts.flatMap ('/' :: ·)

theorem slashed_cons (part : List Char) (rest : List (List Char)) :
    slashed (part :: rest) = '/' :: (part ++ slashed rest) := by
  unfold slashed
  rw [List.flatMap_cons, List.cons_append]

theorem slashed_eq_intercalate {parts : List (List Char)} (h : parts ≠ []) :
    slashed parts = '/' :: ['/'].intercalate parts := by
  induction parts with
  | nil => exact absurd rfl h
  | cons part rest ih =>
    rw [slashed_cons]
    cases rest with
    | nil => rw [List.intercalate_singleton, slashed, List.flatMap_nil, List.append_nil]
    | cons part' rest =>
      rw [ih (List.cons_ne_nil _ _), List.intercalate_cons_cons]
      simp

theorem slashed_splitOn (cs : List Char) : slashed (cs.splitOn '/') = '/' :: cs := by
  rw [slashed_eq_intercalate (List.splitOn_ne_nil _ _), List.intercalate_splitOn]

theorem slashed_append (parts rest : List (List Char)) :
    slashed (parts ++ rest) = slashed parts ++ slashed rest :=
  List.flatMap_append

/-- Parts that are joined by slashes fall into no fewer parts. -/
theorem length_le_length_splitOn {parts : List (List Char)} (hw : slashed parts ++ tail = '/' :: w) :
    parts.length ≤ (w.splitOn '/').length := by
  induction parts generalizing w with
  | nil => exact Nat.zero_le _
  | cons part rest ih =>
    rw [slashed_cons, List.cons_append, List.append_assoc] at hw
    rw [← (List.cons.inj hw).2]
    cases rest with
    | nil => exact List.length_pos_iff.2 (List.splitOn_ne_nil _ _)
    | cons part' rest =>
      rw [slashed_cons, List.cons_append, splitOn_slash_append, List.length_append, List.length_cons]
      have hpart := List.length_pos_iff.2 (List.splitOn_ne_nil '/' part)
      have hrest := ih (w := part' ++ slashed rest ++ tail) (by rw [slashed_cons, List.cons_append])
      omega

/-- Where three parts or more, joined by slashes, fall into three parts, there were three, and the
first two have no slash. -/
theorem eq_of_splitOn_slashed {parts : List (List Char)} {a b c : List Char}
    (hparts : 3 ≤ parts.length) (hw : slashed parts ++ tail = '/' :: w)
    (h : w.splitOn '/' = [a, b, c]) : ∃ d, parts = [a, b, d] := by
  match parts, hparts with
  | p :: q :: r :: rest, _ =>
    simp only [slashed_cons, List.cons_append, List.append_assoc, List.cons.injEq, true_and] at hw
    rw [← hw, splitOn_slash_append, splitOn_slash_append] at h
    have hlength := congrArg List.length h
    simp only [List.length_append, List.length_cons, List.length_nil] at hlength
    have hp := List.length_pos_iff.2 (List.splitOn_ne_nil '/' p)
    have hq := List.length_pos_iff.2 (List.splitOn_ne_nil '/' q)
    have hr := List.length_pos_iff.2 (List.splitOn_ne_nil '/' (r ++ (slashed rest ++ tail)))
    -- There are three parts for at least one part each.
    obtain ⟨x, hx⟩ := List.length_eq_one_iff.1 (show (p.splitOn '/').length = 1 by omega)
    obtain ⟨y, hy⟩ := List.length_eq_one_iff.1 (show (q.splitOn '/').length = 1 by omega)
    obtain ⟨z, hz⟩ := List.length_eq_one_iff.1
      (show ((r ++ (slashed rest ++ tail)).splitOn '/').length = 1 by omega)
    rw [hx, hy, hz] at h
    cases h
    rw [eq_of_splitOn_eq_singleton hx, eq_of_splitOn_eq_singleton hy]
    cases rest with
    | nil => exact ⟨r, rfl⟩
    | cons part rest =>
      rw [slashed_cons, List.cons_append, splitOn_slash_append] at hz
      have hz := congrArg List.length hz
      rw [List.length_append, List.length_singleton] at hz
      have hr := List.length_pos_iff.2 (List.splitOn_ne_nil '/' r)
      have hrest := List.length_pos_iff.2
        (List.splitOn_ne_nil '/' (part ++ slashed rest ++ tail))
      omega

/-- A text that starts with a slash is the pointer of its parts. -/
theorem parse_slash (w : List Char) :
    parse (String.ofList ('/' :: w)) = .ok ⟨(w.splitOn '/').map segmentOf⟩ := by
  unfold parse split
  rw [String.toList_ofList]
  rfl

/-- What follows a text is read on its own, unless it carries on an escape. -/
theorem unescapeChars_append {rest : List Char} (hrest : ∀ c ∈ rest.head?, c ≠ '0' ∧ c ≠ '1')
    (cs : List Char) : unescapeChars (cs ++ rest) = unescapeChars cs ++ unescapeChars rest := by
  induction cs using unescapeChars.induct with
  | case1 => rfl
  | case2 more ih => simp only [List.cons_append, unescapeChars, ih]
  | case3 more ih => simp only [List.cons_append, unescapeChars, ih]
  | case4 c more hone hzero ih =>
    -- Where the text ends in a tilde, what follows it does not begin with a digit of an escape.
    have hdigit {d : Char} {tail : List Char} (hd : d ∉ rest.head?) (heq : more ++ rest = d :: tail) :
        ∃ tail', more = d :: tail' := by
      cases more with
      | nil =>
        rw [List.nil_append] at heq
        exact absurd (by rw [heq]; rfl) hd
      | cons x more => exact ⟨more, by rw [(List.cons.inj heq).1]⟩
    rw [List.cons_append, unescapeChars, unescapeChars, ih, List.cons_append]
    · exact hone
    · exact hzero
    · intro tail hc heq
      obtain ⟨tail', hmore⟩ := hdigit (fun hd => (hrest _ hd).2 rfl) heq
      exact hone tail' hc hmore
    · intro tail hc heq
      obtain ⟨tail', hmore⟩ := hdigit (fun hd => (hrest _ hd).1 rfl) heq
      exact hzero tail' hc hmore

theorem unescapeChars_of_notMem (h : '~' ∉ cs) : unescapeChars cs = cs := by
  induction cs with
  | nil => rfl
  | cons c rest ih =>
    rw [List.mem_cons, not_or] at h
    rw [unescapeChars_cons (Ne.symm h.1), ih h.2]

/-- Blanks after a segment are part of the segment. -/
theorem segmentOf_append_blanks {trail : List Char} (h : ∀ c ∈ trail, Text.isBlank c = true)
    (cs : List Char) : segmentOf (cs ++ trail) = segmentOf cs ++ String.ofList trail := by
  have htilde : '~' ∉ trail := fun hmem => absurd (h _ hmem) (by decide)
  have hhead : ∀ c ∈ trail.head?, c ≠ '0' ∧ c ≠ '1' := fun c hc =>
    ⟨Text.ne_of_isBlank (h c (List.mem_of_mem_head? hc)) (by decide) (by decide),
      Text.ne_of_isBlank (h c (List.mem_of_mem_head? hc)) (by decide) (by decide)⟩
  unfold segmentOf
  rw [unescapeChars_append hhead, unescapeChars_of_notMem htilde, String.ofList_append]

/-- Parts that are joined by slashes, with blanks at the end, are read back as they are exactly if there
are no slashes in them and no blanks. -/
theorem map_splitOn_slashed_iff {parts : List (List Char)} {trail : List Char}
    (htrail : ∀ c ∈ trail, Text.isBlank c = true) (hw : slashed parts ++ trail = '/' :: w) :
    (w.splitOn '/').map segmentOf = parts.map segmentOf ↔
      (∀ part ∈ parts, '/' ∉ part) ∧ trail = [] := by
  induction parts generalizing w with
  | nil =>
    rw [slashed, List.flatMap_nil, List.nil_append] at hw
    exact absurd (htrail '/' (hw ▸ List.mem_cons_self)) (by decide)
  | cons part rest ih =>
    rw [List.forall_mem_cons]
    by_cases hpart : '/' ∈ part
    · -- The part falls into two at least.
      refine iff_of_false (fun h => ?_) fun h => h.1.1 hpart
      obtain ⟨before, after, rfl⟩ := List.append_of_mem hpart
      have hw' : slashed (before :: after :: rest) ++ trail = '/' :: w := by
        simpa [slashed_cons] using hw
      have hle := length_le_length_splitOn hw'
      have hlength := congrArg List.length h
      simp only [List.length_map, List.length_cons] at hlength hle
      omega
    · rw [slashed_cons, List.cons_append, List.append_assoc] at hw
      rw [← (List.cons.inj hw).2]
      cases rest with
      | nil =>
        have hall : '/' ∉ part ++ trail := by
          rw [List.mem_append, not_or]
          exact ⟨hpart, fun hmem => absurd (htrail '/' hmem) (by decide)⟩
        rw [slashed, List.flatMap_nil, List.nil_append, List.splitOn_eq_singleton hall]
        simp [segmentOf_append_blanks htrail, hpart]
      | cons part' rest =>
        rw [slashed_cons, List.cons_append, splitOn_slash_append, List.splitOn_eq_singleton hpart,
          List.map_append, List.map_singleton, List.singleton_append, List.map_cons, List.cons.injEq,
          and_iff_right rfl, and_iff_right hpart]
        exact ih (by rw [slashed_cons, List.cons_append])

theorem segmentOf_escapeChars (segment : String) :
    segmentOf (escapeChars segment.toList) = segment := by
  unfold segmentOf
  rw [unescapeChars_escapeChars, String.ofList_toList]

theorem map_segmentOf_escapeChars (segments : List String) :
    (segments.map fun s => escapeChars s.toList).map segmentOf = segments := by
  have hid : (segmentOf ∘ fun s => escapeChars (String.toList s)) = id :=
    funext segmentOf_escapeChars
  rw [List.map_map, hid, List.map_id]

theorem slash_notMem_of_mem_map_escapeChars {segments : List String} :
    ∀ part ∈ segments.map fun s => escapeChars s.toList, '/' ∉ part := by
  intro part hpart
  obtain ⟨s, -, rfl⟩ := List.mem_map.1 hpart
  exact slash_notMem_escapeChars s.toList

theorem text_eq_slashed (p : Pointer) :
    p.text = String.ofList (slashed (p.segments.map fun s => escapeChars s.toList)) := by
  unfold text chars slashed
  rw [List.flatMap_map]

/-- A text is read part by part, if there is no slash inside a part. -/
theorem parse_slashed {parts : List (List Char)} (hslash : ∀ part ∈ parts, '/' ∉ part) :
    parse (String.ofList (slashed parts)) = .ok ⟨parts.map segmentOf⟩ := by
  cases parts with
  | nil => rfl
  | cons part rest =>
    rw [slashed_eq_intercalate (List.cons_ne_nil _ _), parse_slash,
      List.splitOn_intercalate '/' hslash (List.cons_ne_nil _ _)]

/-- The text of a pointer is read as the pointer. -/
theorem parse_text (p : Pointer) : parse p.text = .ok p := by
  rw [text_eq_slashed, parse_slashed slash_notMem_of_mem_map_escapeChars, map_segmentOf_escapeChars]

theorem text_injective {p q : Pointer} (h : p.text = q.text) : p = q := by
  have hparse := p.parse_text
  rw [h, q.parse_text] at hparse
  exact (Except.ok.inj hparse).symm

theorem text_append (segments more : List String) :
    text ⟨segments⟩ ++ text ⟨more⟩ = text ⟨segments ++ more⟩ := by
  unfold text chars
  rw [List.flatMap_append, String.ofList_append]

/-- A text that is a pointer with segments starts with a slash. -/
theorem exists_of_parse_eq_ok {p : Pointer} (hp : p.segments ≠ [])
    (h : parse (String.ofList cs) = .ok p) : ∃ w, cs = '/' :: w := by
  unfold parse split at h
  rw [String.toList_ofList] at h
  match cs, h with
  | [], h =>
    cases h
    exact absurd rfl hp
  | c :: w, h =>
    by_cases hc : c = '/'
    · exact ⟨w, by rw [hc]⟩
    · split at h
      · rename_i heq
        cases heq
      · rename_i heq
        exact absurd (List.cons.inj heq).1 hc
      · cases h

/-! ## Fragments -/

/-- A fragment is decoded part by part. -/
theorem decodeLossy_slashed {parts decoded : List (List Char)} {rest : List Char}
    (h : List.Forall₂ (fun part cs => Text.Percent.decode? part = some cs) parts decoded)
    (hrest : ∀ c ∈ rest.head?, Text.hexDigit? c = none) :
    Text.Percent.decodeLossy (slashed parts ++ rest) =
      slashed decoded ++ Text.Percent.decodeLossy rest := by
  induction h with
  | nil => rfl
  | @cons part cs parts decoded hpart _ ih =>
    have hnext : ∀ c ∈ (slashed parts ++ rest).head?, Text.hexDigit? c = none := by
      cases parts with
      | nil => exact hrest
      | cons part' parts =>
        intro c hc
        rw [slashed_cons] at hc
        cases hc
        rfl
    rw [slashed_cons, slashed_cons, List.cons_append, List.append_assoc,
      Text.Percent.decodeLossy_cons (by decide), Text.Percent.decodeLossy_append hpart hnext, ih,
      List.cons_append, List.append_assoc]

/-- A fragment is read part by part, if there is no slash inside a part. -/
theorem parseFragment_slashed {parts : List (List Char)} (hslash : ∀ part ∈ parts, '/' ∉ part) :
    parseFragment (String.ofList (slashed parts)) = (fragmentSegments parts).map Pointer.mk := by
  unfold parseFragment split
  rw [String.toList_ofList]
  cases parts with
  | nil => rfl
  | cons part rest =>
    rw [slashed_eq_intercalate (List.cons_ne_nil _ _)]
    change (fragmentSegments ((['/'].intercalate (part :: rest)).splitOn '/')).map Pointer.mk = _
    rw [List.splitOn_intercalate '/' hslash (List.cons_ne_nil _ _)]

theorem fragmentSegments_concat {parts : List (List Char)} {names : List String} {name : String}
    (hparts : fragmentSegments parts = .ok names) (hlast : fragmentSegment cs = .ok name) :
    fragmentSegments (parts ++ [cs]) = .ok (names ++ [name]) := by
  induction parts generalizing names with
  | nil =>
    cases hparts
    rw [List.nil_append, fragmentSegments, hlast]
    rfl
  | cons part rest ih =>
    rw [fragmentSegments] at hparts
    rw [List.cons_append, fragmentSegments]
    cases hpart : fragmentSegment part with
    | error e =>
      rw [hpart] at hparts
      cases hparts
    | ok first =>
      rw [hpart] at hparts
      cases hrest : fragmentSegments rest with
      | error e =>
        rw [hrest] at hparts
        cases hparts
      | ok more =>
        rw [hrest] at hparts
        cases hparts
        rw [ih hrest]
        rfl

/-- The segments of a fragment are those of its parts, which can all be decoded. -/
theorem exists_of_fragmentSegments {parts : List (List Char)} {segments : List String}
    (h : fragmentSegments parts = .ok segments) :
    ∃ decoded, List.Forall₂ (fun part cs => Text.Percent.decode? part = some cs) parts decoded ∧
      segments = decoded.map segmentOf := by
  induction parts generalizing segments with
  | nil =>
    cases h
    exact ⟨[], .nil, rfl⟩
  | cons part rest ih =>
    rw [fragmentSegments] at h
    unfold fragmentSegment at h
    cases hpart : Text.Percent.decode? part with
    | none =>
      rw [hpart] at h
      cases h
    | some cs =>
      rw [hpart] at h
      cases hrest : fragmentSegments rest with
      | error e =>
        rw [hrest] at h
        cases h
      | ok more =>
        rw [hrest] at h
        cases h
        obtain ⟨decoded, hdecoded, rfl⟩ := ih hrest
        exact ⟨cs :: decoded, .cons hpart hdecoded, rfl⟩

/-- A fragment that can be read has no segments, or those of the parts after its slashes. -/
theorem exists_of_parseFragment {fragment : List Char} {p : Pointer}
    (h : parseFragment (String.ofList fragment) = .ok p) :
    (fragment = [] ∧ p.segments = []) ∨
      ∃ parts decoded, fragment = slashed parts ∧ (∀ part ∈ parts, '/' ∉ part) ∧
        List.Forall₂ (fun part cs => Text.Percent.decode? part = some cs) parts decoded ∧
        p.segments = decoded.map segmentOf := by
  unfold parseFragment split at h
  rw [String.toList_ofList] at h
  split at h
  · cases h
    exact .inl ⟨rfl, rfl⟩
  · rename_i rest
    change (fragmentSegments (rest.splitOn '/')).map Pointer.mk = _ at h
    cases hsegments : fragmentSegments (rest.splitOn '/') with
    | error e =>
      rw [hsegments] at h
      cases h
    | ok segments =>
      rw [hsegments] at h
      cases h
      obtain ⟨decoded, hdecoded, hmap⟩ := exists_of_fragmentSegments hsegments
      exact .inr ⟨_, decoded, (slashed_splitOn rest).symm, slash_notMem_of_mem_splitOn rest, hdecoded,
        hmap⟩
  · cases h

end ApiShape.Pointer
