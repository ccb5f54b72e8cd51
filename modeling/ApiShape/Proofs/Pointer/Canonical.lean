import ApiShape.Proofs.Pointer.Segments

/-!
# Canonical texts of pointers

Every pointer is read back from its text. A text that is read as a pointer need not be the text of the
pointer: a tilde that begins no escape stands for itself, but is written as an escape. So the texts of
pointers are those where every tilde begins an escape.
-/

namespace ApiShape.Pointer

variable {cs : List Char}

/-! ## One kind of escape after the other -/

/-- The text with one character in the place of every pair of others, from left to right. -/
def replacePair (first second char : Char) : List Char → List Char
  | [] => []
  | [c] => [c]
  | c :: d :: rest =>
    if c = first ∧ d = second then char :: replacePair first second char rest
    else c :: replacePair first second char (d :: rest)

/-- The text with two characters in the place of every occurrence of one. -/
def replaceChar (char first second : Char) (cs : List Char) : List Char :=
  cs.flatMap fun c => if c = char then [first, second] else [c]

/-- A segment is escaped by escaping its tildes and then its slashes. -/
theorem escapeChars_eq_replaceChar (cs : List Char) :
    escapeChars cs = replaceChar '/' '~' '1' (replaceChar '~' '~' '0' cs) := by
  unfold replaceChar
  induction cs using escapeChars.induct with
  | case1 => rfl
  | case2 rest ih => simp [escapeChars, ih]
  | case3 rest ih => simp [escapeChars, ih]
  | case4 c rest htilde hslash ih =>
    have htilde' : c ≠ '~' := htilde
    have hslash' : c ≠ '/' := hslash
    simp [escapeChars_cons htilde hslash, htilde', hslash', ih]

theorem replacePair_cons {first second char c : Char} {rest : List Char}
    (h : c = first → ∀ d ∈ rest.head?, d ≠ second) :
    replacePair first second char (c :: rest) = c :: replacePair first second char rest := by
  cases rest with
  | nil => rfl
  | cons d rest => rw [replacePair, if_neg fun hpair => h hpair.1 d rfl hpair.2]

theorem head?_replacePair {first second char d : Char}
    (h : (replacePair first second char cs).head? = some d) : cs.head? = some d ∨ d = char := by
  match cs, h with
  | [_], h => exact .inl h
  | c :: c' :: rest, h =>
    rw [replacePair] at h
    split at h
    · exact .inr (Option.some.inj h).symm
    · exact .inl h

/-- A text is unescaped by undoing the escapes of slashes and then those of tildes. -/
theorem unescapeChars_eq_replacePair (cs : List Char) :
    unescapeChars cs = replacePair '~' '0' '~' (replacePair '~' '1' '/' cs) := by
  induction cs using unescapeChars.induct with
  | case1 => rfl
  | case2 rest ih =>
    rw [unescapeChars, replacePair, if_pos ⟨rfl, rfl⟩, replacePair_cons (fun h => by cases h), ih]
  | case3 rest ih =>
    have hinner : replacePair '~' '1' '/' ('~' :: '0' :: rest) =
        '~' :: '0' :: replacePair '~' '1' '/' rest := by
      rw [replacePair, if_neg (by decide), replacePair_cons (fun h => by cases h)]
    rw [unescapeChars, hinner, replacePair, if_pos ⟨rfl, rfl⟩, ih]
  | case4 c rest hone hzero ih =>
    have hnext {d : Char} (hd : ∀ more, c = '~' → rest = d :: more → False) :
        c = '~' → ∀ d' ∈ rest.head?, d' ≠ d := by
      rintro hc d' hd' rfl
      obtain ⟨more, hmore⟩ := List.head?_eq_some_iff.1 hd'
      exact hd more hc hmore
    rw [unescapeChars, replacePair_cons (hnext hone), replacePair_cons, ih]
    · -- A slash that takes the place of an escape carries on no other escape.
      intro hc d hd hzero'
      rcases head?_replacePair hd with hd | rfl
      · exact hnext hzero hc d hd hzero'
      · cases hzero'
    · exact hone
    · exact hzero

/-- In the other order a tilde that has been unescaped would be read again. -/
example : replacePair '~' '1' '/' (replacePair '~' '0' '~' "~01".toList) ≠ unescapeChars "~01".toList := by
  decide

/-! ## Tildes that begin escapes -/

/-- Every tilde of the text is followed by a zero or a one. -/
def TildesEscape (cs : List Char) : Prop :=
  ∀ i < cs.length, cs[i]? = some '~' → cs[i + 1]? = some '0' ∨ cs[i + 1]? = some '1'

instance (cs : List Char) : Decidable (TildesEscape cs) :=
  inferInstanceAs (Decidable (∀ i < cs.length, _))

theorem tildesEscape_nil : TildesEscape [] := by
  decide

theorem tildesEscape_cons_iff {c : Char} {rest : List Char} :
    TildesEscape (c :: rest) ↔
      (c = '~' → rest.head? = some '0' ∨ rest.head? = some '1') ∧ TildesEscape rest := by
  unfold TildesEscape
  rw [List.length_cons, Nat.forall_lt_succ_left]
  simp only [List.getElem?_cons_zero, List.getElem?_cons_succ, List.head?_eq_getElem?,
    Option.some.injEq, Nat.zero_add]

theorem tildesEscape_cons_of_ne {c : Char} {rest : List Char} (h : c ≠ '~') :
    TildesEscape (c :: rest) ↔ TildesEscape rest := by
  rw [tildesEscape_cons_iff]
  exact and_iff_right fun hc => absurd hc h

/-- No escape reaches over a slash. -/
theorem tildesEscape_append_slash_iff {rest : List Char} :
    TildesEscape (cs ++ '/' :: rest) ↔ TildesEscape cs ∧ TildesEscape rest := by
  induction cs with
  | nil =>
    rw [List.nil_append, tildesEscape_cons_of_ne (by decide)]
    exact (and_iff_right tildesEscape_nil).symm
  | cons c more ih =>
    have hhead : ∀ d, d ≠ '/' → ((more ++ '/' :: rest).head? = some d ↔ more.head? = some d) := by
      intro d hd
      cases more with
      | nil => simp [Ne.symm hd]
      | cons d' more => rfl
    rw [List.cons_append, tildesEscape_cons_iff, tildesEscape_cons_iff, ih, and_assoc,
      hhead '0' (by decide), hhead '1' (by decide)]

theorem tildesEscape_slashed_iff {parts : List (List Char)} :
    TildesEscape (slashed parts) ↔ ∀ part ∈ parts, TildesEscape part := by
  induction parts with
  | nil => exact iff_of_true tildesEscape_nil (List.forall_mem_nil _)
  | cons part rest ih =>
    rw [List.forall_mem_cons, ← ih, slashed_cons, tildesEscape_cons_of_ne (by decide)]
    cases rest with
    | nil =>
      rw [slashed, List.flatMap_nil, List.append_nil]
      exact (and_iff_left tildesEscape_nil).symm
    | cons part' rest =>
      rw [slashed_cons, tildesEscape_append_slash_iff, tildesEscape_cons_of_ne (by decide)]

/-- A segment is written as it was read exactly if every tilde began an escape. -/
theorem escapeChars_unescapeChars_iff (h : '/' ∉ cs) :
    escapeChars (unescapeChars cs) = cs ↔ TildesEscape cs := by
  induction cs using unescapeChars.induct with
  | case1 => exact iff_of_true rfl tildesEscape_nil
  | case2 rest ih =>
    have hrest : '/' ∉ rest := by simpa using h
    rw [unescapeChars, escapeChars, List.cons_inj_right, List.cons_inj_right, ih hrest,
      tildesEscape_cons_iff, tildesEscape_cons_of_ne (by decide)]
    simp
  | case3 rest ih =>
    have hrest : '/' ∉ rest := by simpa using h
    rw [unescapeChars, escapeChars, List.cons_inj_right, List.cons_inj_right, ih hrest,
      tildesEscape_cons_iff, tildesEscape_cons_of_ne (by decide)]
    simp
  | case4 c rest hone hzero ih =>
    rw [List.mem_cons, not_or] at h
    by_cases hc : c = '~'
    · -- A tilde that began no escape is written as one.
      subst hc
      have hself : unescapeChars ('~' :: rest) = '~' :: unescapeChars rest := by
        rw [unescapeChars]
        · exact hone
        · exact hzero
      rw [hself, escapeChars, tildesEscape_cons_iff]
      refine iff_of_false (fun heq => ?_) fun htilde => ?_
      · exact hzero _ rfl (List.cons.inj heq).2.symm
      · rcases htilde.1 rfl with hd | hd <;> obtain ⟨more, rfl⟩ := List.head?_eq_some_iff.1 hd
        · exact hzero more rfl rfl
        · exact hone more rfl rfl
    · rw [unescapeChars_cons hc, escapeChars_cons hc (Ne.symm h.1), List.cons_inj_right, ih h.2,
        tildesEscape_cons_of_ne hc]

/-! ## Texts of pointers -/

/-- Parts without slashes can be told from what they are joined to. -/
theorem slashed_inj {parts parts' : List (List Char)} (h : ∀ part ∈ parts, '/' ∉ part)
    (h' : ∀ part ∈ parts', '/' ∉ part) : slashed parts = slashed parts' ↔ parts = parts' := by
  refine ⟨fun heq => ?_, congrArg slashed⟩
  cases parts with
  | nil =>
    cases parts' with
    | nil => rfl
    | cons part rest => rw [slashed_cons] at heq; cases heq
  | cons part rest =>
    cases parts' with
    | nil => rw [slashed_cons] at heq; cases heq
    | cons part' rest' =>
      rw [slashed_eq_intercalate (List.cons_ne_nil _ _),
        slashed_eq_intercalate (List.cons_ne_nil _ _)] at heq
      rw [← List.splitOn_intercalate '/' h (List.cons_ne_nil _ _), (List.cons.inj heq).2,
        List.splitOn_intercalate '/' h' (List.cons_ne_nil _ _)]

/-- What is read as a pointer is made of parts without slashes, with a slash before each. -/
theorem exists_parts_of_parse {s : String} {p : Pointer} (h : parse s = .ok p) :
    ∃ parts, (∀ part ∈ parts, '/' ∉ part) ∧ s.toList = slashed parts ∧
      p = ⟨parts.map segmentOf⟩ := by
  unfold parse split at h
  split at h
  · rename_i hs
    cases h
    exact ⟨[], List.forall_mem_nil _, hs, rfl⟩
  · rename_i rest hs
    cases h
    exact ⟨rest.splitOn '/', slash_notMem_of_mem_splitOn rest, by rw [slashed_splitOn, hs], rfl⟩
  · cases h

/-- A text that is read as a pointer is the text of the pointer exactly if every tilde begins an
escape. -/
theorem text_eq_iff_of_parse {s : String} {p : Pointer} (h : parse s = .ok p) :
    p.text = s ↔ TildesEscape s.toList := by
  obtain ⟨parts, hparts, hs, rfl⟩ := exists_parts_of_parse h
  have hwritten : ∀ part ∈ parts.map fun cs => escapeChars (unescapeChars cs), '/' ∉ part := by
    intro part hpart
    obtain ⟨cs, -, rfl⟩ := List.mem_map.1 hpart
    exact slash_notMem_escapeChars _
  calc text ⟨parts.map segmentOf⟩ = s
      ↔ slashed (parts.map fun cs => escapeChars (unescapeChars cs)) = slashed parts := by
        rw [← String.toList_inj, text_eq_slashed, String.toList_ofList, hs, List.map_map]
        simp only [Function.comp_def, segmentOf, String.toList_ofList]
    _ ↔ parts.map (fun cs => escapeChars (unescapeChars cs)) = parts := slashed_inj hwritten hparts
    _ ↔ ∀ part ∈ parts, escapeChars (unescapeChars part) = part := by
        conv_lhs => rhs; rw [← List.map_id parts]
        exact List.map_inj_left
    _ ↔ ∀ part ∈ parts, TildesEscape part :=
        forall₂_congr fun part hpart => escapeChars_unescapeChars_iff (hparts part hpart)
    _ ↔ TildesEscape s.toList := by rw [hs, tildesEscape_slashed_iff]

/-- Texts and pointers: every pointer is read from its text, whatever its segments are. A text that is
read as a pointer is written as it was exactly if each of its tildes is followed by a zero or a one, and
what is written in its place is read as the same pointer. -/
theorem text_parse_roundTrip (p : Pointer) :
    parse p.text = .ok p ∧
      ∀ s : String, parse s = .ok p → (p.text = s ↔ TildesEscape s.toList) ∧ parse p.text = parse s :=
  ⟨p.parse_text, fun _ h => ⟨text_eq_iff_of_parse h, p.parse_text.trans h.symm⟩⟩

/-- A slash, a tilde, an empty segment, and the runs of tildes that are easily misread. -/
theorem text_parse_roundTrip_runs :
    parse "/a~1b//~01/~0~1~~1" = .ok ⟨["a/b", "", "~1", "~/~/"]⟩ ∧
      text ⟨["a/b", "", "~1", "~/~/"]⟩ ≠ "/a~1b//~01/~0~1~~1" ∧
      parse (text ⟨["a/b", "", "~1", "~/~/"]⟩) = .ok ⟨["a/b", "", "~1", "~/~/"]⟩ := by
  have hparse : parse "/a~1b//~01/~0~1~~1" = .ok ⟨["a/b", "", "~1", "~/~/"]⟩ := by rfl
  have h := text_parse_roundTrip ⟨["a/b", "", "~1", "~/~/"]⟩
  refine ⟨hparse, fun htext => ?_, h.1⟩
  exact absurd ((h.2 _ hparse).1.1 htext) (by decide)

end ApiShape.Pointer
