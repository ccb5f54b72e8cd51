import ApiShape.PathTemplate
import ApiShape.Proofs.Pointer.Segments
import Mathlib

/-!
# The grammar of path templates

Reading takes as many fragments and segments as it can, and never has to go back: what is accepted is
exactly what can be cut into segments and fragments, there is one way to do so, and reading finds it.
Where it has to stop before the end, it has come to the end of a template.
-/

namespace ApiShape.PathTemplate

/-! ## Texts cut into pieces -/

/-- A fragment as it is written: a run of characters, or the name of a parameter in braces. -/
inductive Piece where
  | literal (run : List Char)
  | param (name : List Char)

namespace Piece

/-- The text of a piece. -/
def text : Piece → List Char
  | .literal run => run
  | .param name => '\x7b' :: (name ++ ['\x7d'])

/-- The name in a piece that is a parameter. -/
def name? : Piece → Option String
  | .literal _ => none
  | .param name => some (String.ofList name)

/-- The fragment that a piece stands for. A literal must have path characters only, and they must decode
together; the name of a parameter may have any characters but braces. -/
inductive Denotes : Piece → PathFragment → Prop
  | literal {run decoded : List Char} (hne : run ≠ []) (hrun : ∀ c ∈ run, isPathChar c = true)
      (hdecode : Text.Percent.decode? run = some decoded) :
      Denotes (.literal run) (.literal (String.ofList decoded))
  | param {name : List Char} (hne : name ≠ []) (hopen : '\x7b' ∉ name) (hclose : '\x7d' ∉ name) :
      Denotes (.param name) (.param (String.ofList name))

end Piece

/-- The text of pieces that follow each other. -/
def textOf (pieces : List Piece) : List Char :=
  pieces.flatMap Piece.text

/-- Every literal is as long as it can be: no path character stands right before or after it. -/
def Maximal (pieces : List Piece) : Prop :=
  ∀ front run back, pieces = front ++ .literal run :: back →
    (∀ c ∈ (textOf front).getLast?, isPathChar c = false) ∧
      ∀ c ∈ (textOf back).head?, isPathChar c = false

/-- A text of the grammar, as it is cut into segments and these into pieces, and the template that it
stands for. -/
structure Derives (cs : List Char) (segments : List (List Piece)) (t : PathTemplate) : Prop where
  text : cs = '/' :: ['/'].intercalate (segments.map textOf)
  nonempty : segments ≠ []
  filled : ∀ segment ∈ segments.dropLast, segment ≠ []
  maximal : ∀ segment ∈ segments, Maximal segment
  denotes : List.Forall₂ (List.Forall₂ Piece.Denotes) segments t.segments

variable {cs rest : List Char} {piece : Piece} {pieces : List Piece} {f : PathFragment}
  {fs : List PathFragment}

theorem textOf_cons (piece : Piece) (pieces : List Piece) :
    textOf (piece :: pieces) = piece.text ++ textOf pieces :=
  List.flatMap_cons

theorem textOf_append (front back : List Piece) :
    textOf (front ++ back) = textOf front ++ textOf back :=
  List.flatMap_append

theorem Piece.Denotes.text_ne_nil (h : piece.Denotes f) : piece.text ≠ [] := by
  cases h with
  | literal hne => exact hne
  | param => exact List.cons_ne_nil _ _

/-- A run of path characters starts with no brace. -/
theorem run_append_ne_brace {run tail : List Char} (hne : run ≠ [])
    (hrun : ∀ c ∈ run, isPathChar c = true) : run ++ rest ≠ '\x7b' :: tail := by
  intro h
  cases run with
  | nil => exact hne rfl
  | cons c run =>
    obtain rfl := (List.cons.inj h).1
    exact absurd (hrun _ List.mem_cons_self) (by decide)

/-- Different pieces have different texts, as a brace tells parameters from literals. -/
theorem Piece.Denotes.eq_of_text_eq {piece' : Piece} {f' : PathFragment} (h : piece.Denotes f)
    (h' : piece'.Denotes f') (heq : piece.text = piece'.text) : piece = piece' := by
  cases h with
  | literal hne hrun =>
    cases h' with
    | literal => exact congrArg Piece.literal heq
    | param => exact absurd ((List.append_nil _).trans heq) (run_append_ne_brace hne hrun)
  | param =>
    cases h' with
    | literal hne hrun =>
      exact absurd ((List.append_nil _).trans heq.symm) (run_append_ne_brace hne hrun)
    | param => exact congrArg Piece.param (List.append_cancel_right (List.cons.inj heq).2)

/-! ## Single fragments -/

/-- A piece ends where it is followed by the text: a literal before no path character. -/
def Piece.EndsAt : Piece → List Char → Prop
  | .literal _, rest => ∀ c ∈ rest.head?, isPathChar c = false
  | .param _, _ => True

theorem isNameChar_iff {c : Char} : isNameChar c = true ↔ c ≠ '\x7b' ∧ c ≠ '\x7d' := by
  simp [isNameChar]

/-- A run of characters of a kind is taken whole where another kind follows. -/
theorem takeWhile_run {p : Char → Bool} {run : List Char} (hrun : ∀ c ∈ run, p c = true)
    (hrest : ∀ c ∈ rest.head?, p c = false) :
    (run ++ rest).takeWhile p = run ∧ (run ++ rest).dropWhile p = rest := by
  rw [List.takeWhile_append_of_pos hrun, List.dropWhile_append_of_pos hrun]
  cases rest with
  | nil => exact ⟨List.append_nil run, rfl⟩
  | cons c rest =>
    have hc := hrest c rfl
    simp [hc]

theorem head?_dropWhile {p : Char → Bool} {c : Char} (h : c ∈ (cs.dropWhile p).head?) :
    p c = false := by
  have hnot := List.head?_dropWhile_not p cs
  rw [Option.mem_def.1 h] at hnot
  simpa using hnot

theorem fragment?_eq_literal? (h : cs.head? ≠ some '\x7b') : fragment? cs = literal? cs := by
  unfold fragment?
  split
  · exact absurd rfl h
  · rfl

theorem literal?_eq_some_iff :
    literal? cs = some (f, rest) ↔
      ∃ run, (Piece.literal run).Denotes f ∧ cs = run ++ rest ∧ (Piece.literal run).EndsAt rest := by
  constructor
  · intro h
    unfold literal? at h
    split at h
    · cases h
    · rename_i c run htake
      obtain ⟨decoded, hdecode, heq⟩ := Option.map_eq_some_iff.1 h
      cases heq
      have hsplit : c :: run ++ cs.dropWhile isPathChar = cs := by
        rw [← htake]
        exact List.takeWhile_append_dropWhile
      -- All that is taken are path characters, and what is left starts with none.
      refine ⟨c :: run, .literal (List.cons_ne_nil c run) (fun c' hc' => ?_) hdecode, hsplit.symm,
        fun c' hc' => head?_dropWhile hc'⟩
      rw [← htake] at hc'
      exact List.mem_takeWhile_imp hc'
  · rintro ⟨run, hrun, rfl, hend⟩
    cases hrun with
    | literal hne hchars hdecode =>
      obtain ⟨htake, hdrop⟩ := takeWhile_run hchars hend
      unfold literal?
      rw [htake, hdrop]
      cases run with
      | nil => exact absurd rfl hne
      | cons c run =>
        dsimp only
        rw [hdecode]
        rfl

theorem param?_eq_some_iff :
    param? cs = some (f, rest) ↔
      ∃ name, (Piece.param name).Denotes f ∧ cs = name ++ '\x7d' :: rest := by
  constructor
  · intro h
    unfold param? at h
    split at h
    · rename_i c name rest' htake hdrop
      cases h
      have hsplit : c :: name ++ '\x7d' :: rest = cs := by
        rw [← htake, ← hdrop]
        exact List.takeWhile_append_dropWhile
      have hname : ∀ c' ∈ c :: name, c' ≠ '\x7b' ∧ c' ≠ '\x7d' := by
        intro c' hc'
        rw [← htake] at hc'
        exact isNameChar_iff.1 (List.mem_takeWhile_imp hc')
      exact ⟨c :: name, .param (List.cons_ne_nil c name) (fun hmem => (hname _ hmem).1 rfl)
        (fun hmem => (hname _ hmem).2 rfl), hsplit.symm⟩
    · cases h
  · rintro ⟨name, hname, rfl⟩
    cases hname with
    | param hne hopen hclose =>
      have hchars : ∀ c ∈ name, isNameChar c = true := by
        intro c hc
        exact isNameChar_iff.2 ⟨fun h => hopen (h ▸ hc), fun h => hclose (h ▸ hc)⟩
      have hbrace : ∀ c ∈ ('\x7d' :: rest).head?, isNameChar c = false := by
        rintro _ ⟨⟩
        decide
      obtain ⟨htake, hdrop⟩ := takeWhile_run hchars hbrace
      unfold param?
      rw [htake, hdrop]
      cases name with
      | nil => exact absurd rfl hne
      | cons c name => rfl

/-- The fragment that is read is that of the one piece that the text starts with. -/
theorem fragment?_eq_some_iff :
    fragment? cs = some (f, rest) ↔
      ∃ piece : Piece, piece.Denotes f ∧ cs = piece.text ++ rest ∧ piece.EndsAt rest := by
  by_cases hbrace : ∃ tail, cs = '\x7b' :: tail
  · obtain ⟨tail, rfl⟩ := hbrace
    rw [fragment?, param?_eq_some_iff]
    constructor
    · rintro ⟨name, hname, rfl⟩
      exact ⟨.param name, hname, by simp [Piece.text], trivial⟩
    · rintro ⟨piece, hpiece, htext, -⟩
      cases piece with
      | literal run =>
        cases hpiece with
        | literal hne hrun => exact absurd htext.symm (run_append_ne_brace hne hrun)
      | param name => exact ⟨name, hpiece, by simpa [Piece.text] using htext⟩
  · have hhead : cs.head? ≠ some '\x7b' := fun h => hbrace (List.head?_eq_some_iff.1 h)
    rw [fragment?_eq_literal? hhead, literal?_eq_some_iff]
    constructor
    · rintro ⟨run, hrun, htext, hend⟩
      exact ⟨.literal run, hrun, htext, hend⟩
    · rintro ⟨piece, hpiece, htext, hend⟩
      cases piece with
      | literal run => exact ⟨run, hpiece, htext, hend⟩
      | param name => exact absurd ⟨_, htext⟩ hbrace

/-! ## Fragments in a row -/

/-- A text starts with pieces, each of which ends where the next one begins, and goes on with the
rest. -/
inductive Reads : List Char → List Piece → List PathFragment → List Char → Prop
  | nil (rest : List Char) : Reads rest [] [] rest
  | cons {cs rest : List Char} {piece : Piece} {f : PathFragment} {pieces : List Piece}
      {fs : List PathFragment} (hpiece : piece.Denotes f) (hend : piece.EndsAt cs)
      (hmore : Reads cs pieces fs rest) :
      Reads (piece.text ++ cs) (piece :: pieces) (f :: fs) rest

theorem Reads.text (h : Reads cs pieces fs rest) : cs = textOf pieces ++ rest := by
  induction h with
  | nil rest => rfl
  | cons hpiece hend hmore ih => rw [textOf_cons, List.append_assoc, ← ih]

theorem Reads.denotes (h : Reads cs pieces fs rest) : List.Forall₂ Piece.Denotes pieces fs := by
  induction h with
  | nil rest => exact .nil
  | cons hpiece hend hmore ih => exact .cons hpiece ih

theorem Reads.exists_denotes (h : Reads cs pieces fs rest) (hpiece : piece ∈ pieces) :
    ∃ f, piece.Denotes f := by
  induction h with
  | nil rest => cases hpiece
  | cons hfirst hend hmore ih =>
    rcases List.mem_cons.1 hpiece with rfl | hpiece
    · exact ⟨_, hfirst⟩
    · exact ih hpiece

/-- Reading goes through to where no fragment follows. -/
theorem Reads.fragments_eq (h : Reads cs pieces fs rest) (hrest : fragment? rest = none) :
    fragments cs = (fs, rest) := by
  induction h with
  | nil rest =>
    unfold fragments
    split
    · rfl
    · rename_i heq
      cases hrest.symm.trans heq
  | cons hpiece hend hmore ih =>
    have hfragment := fragment?_eq_some_iff.2 ⟨_, hpiece, rfl, hend⟩
    unfold fragments
    split
    · rename_i heq
      cases hfragment.symm.trans heq
    · rename_i heq
      cases hfragment.symm.trans heq
      rw [ih hrest]

theorem exists_reads (cs : List Char) :
    ∃ pieces, Reads cs pieces (fragments cs).1 (fragments cs).2 := by
  fun_induction fragments cs with
  | case1 cs => exact ⟨[], .nil cs⟩
  | case2 cs f rest hfragment more rest' hmore ih =>
    rw [hmore] at ih
    obtain ⟨pieces, hpieces⟩ := ih
    obtain ⟨piece, hpiece, rfl, hend⟩ := fragment?_eq_some_iff.1 hfragment
    exact ⟨piece :: pieces, .cons hpiece hend hpieces⟩

/-- There is one way to read pieces to where no fragment follows. -/
theorem Reads.unique {cs' rest' : List Char} {pieces' : List Piece} {fs' : List PathFragment}
    (h : Reads cs pieces fs rest) (h' : Reads cs' pieces' fs' rest') (hcs : cs = cs')
    (hrest : fragment? rest = none) (hrest' : fragment? rest' = none) :
    pieces = pieces' ∧ rest = rest' := by
  induction h generalizing cs' pieces' fs' with
  | nil rest =>
    cases h' with
    | nil => exact ⟨rfl, hcs⟩
    | cons hpiece hend =>
      have hsome := fragment?_eq_some_iff.2 ⟨_, hpiece, hcs, hend⟩
      cases hrest.symm.trans hsome
  | cons hpiece hend hmore ih =>
    have hsome := fragment?_eq_some_iff.2 ⟨_, hpiece, hcs.symm, hend⟩
    cases h' with
    | nil => cases hrest'.symm.trans hsome
    | cons hpiece' hend' hmore' =>
      -- The same fragment is read, so what follows is the same, and so is the piece before it.
      cases hsome.symm.trans (fragment?_eq_some_iff.2 ⟨_, hpiece', rfl, hend'⟩)
      obtain ⟨rfl, rfl⟩ := ih hmore' rfl hrest
      exact ⟨congrArg (· :: _) (hpiece.eq_of_text_eq hpiece' (List.append_cancel_right hcs)), rfl⟩

/-- Every piece ends where the text of the pieces after it begins. -/
theorem Reads.endsAt (h : Reads cs pieces fs rest) {front back : List Piece}
    (hsplit : pieces = front ++ piece :: back) : piece.EndsAt (textOf back ++ rest) := by
  induction h generalizing front with
  | nil rest => simp at hsplit
  | cons hfirst hend hmore ih =>
    cases front with
    | nil =>
      cases hsplit
      rwa [← hmore.text]
    | cons first front => exact ih (List.cons.inj hsplit).2

/-- Two literals in a row would be one, since the second starts with a path character. -/
theorem Reads.not_literal_literal {run run' : List Char} {front back : List Piece}
    (h : Reads cs pieces fs rest) : pieces ≠ front ++ .literal run :: .literal run' :: back := by
  intro hsplit
  have hend := h.endsAt hsplit
  have hmem : Piece.literal run' ∈ pieces := by
    rw [hsplit]
    simp
  obtain ⟨f, hpiece⟩ := h.exists_denotes hmem
  cases hpiece with
  | literal hne hrun =>
    cases run' with
    | nil => exact hne rfl
    | cons c run' =>
      have hc := hend c rfl
      rw [hrun c List.mem_cons_self] at hc
      cases hc

/-- Pieces that are read are as long as they can be. -/
theorem Reads.maximal (h : Reads cs pieces fs rest) : Maximal pieces := by
  rintro front run back rfl
  refine ⟨fun c hc => ?_, fun c hc => ?_⟩
  · rcases List.eq_nil_or_concat front with rfl | ⟨front, piece, rfl⟩
    · cases hc
    · have hlast : c ∈ piece.text.getLast? := by
        obtain ⟨f, hpiece⟩ := @Reads.exists_denotes _ _ piece _ _ h (by simp)
        rw [List.concat_eq_append, textOf_append, textOf_cons] at hc
        simpa [textOf, List.getLast?_append, List.getLast?_eq_some_getLast hpiece.text_ne_nil]
          using hc
      cases piece with
      | param name =>
        rw [Piece.text, ← List.cons_append, List.getLast?_concat] at hlast
        cases hlast
        decide
      | literal run' =>
        rw [List.concat_eq_append, List.append_assoc] at h
        exact absurd rfl h.not_literal_literal
  · refine h.endsAt rfl c ?_
    rw [List.head?_append, Option.mem_def.1 hc]
    rfl

/-- Pieces that are as long as they can be are read where no path character follows. -/
theorem reads_of_maximal (hdenotes : List.Forall₂ Piece.Denotes pieces fs)
    (hmaximal : Maximal pieces) (hrest : ∀ c ∈ rest.head?, isPathChar c = false) :
    Reads (textOf pieces ++ rest) pieces fs rest := by
  induction hdenotes with
  | nil => exact .nil rest
  | @cons piece f pieces fs hpiece hmore ih =>
    rw [textOf_cons, List.append_assoc]
    refine .cons hpiece ?_ (ih fun front run back hsplit => ?_)
    · -- After the last literal comes the rest, after any other one the next piece.
      cases piece with
      | param name => trivial
      | literal run =>
        intro c hc
        rw [List.head?_append] at hc
        cases hhead : (textOf pieces).head? with
        | none =>
          rw [hhead] at hc
          exact hrest c hc
        | some c' =>
          rw [hhead] at hc
          cases hc
          exact (hmaximal [] run pieces rfl).2 c hhead
    · obtain ⟨hfront, hback⟩ := hmaximal (piece :: front) run back (by rw [hsplit]; rfl)
      refine ⟨fun c hc => hfront c ?_, hback⟩
      rw [textOf_cons, List.getLast?_append, Option.mem_def.1 hc]
      rfl

/-! ## Segments -/

/-- The segment that is read has pieces, unless the text is at its end. -/
theorem exists_reads_of_segment? (h : segment? cs = some (fs, rest)) :
    ∃ pieces, Reads cs pieces fs rest ∧ (pieces = [] → rest = []) := by
  obtain ⟨pieces, hpieces⟩ := exists_reads cs
  unfold segment? at h
  split at h
  · rename_i rest' heq
    rw [heq] at hpieces
    split at h
    · rename_i hrest
      subst hrest
      cases h
      exact ⟨pieces, hpieces, fun _ => rfl⟩
    · cases h
  · rename_i f more rest' heq
    rw [heq] at hpieces
    cases h
    refine ⟨pieces, hpieces, fun hnil => ?_⟩
    cases hpieces
    cases hnil

theorem Reads.segment?_eq (h : Reads cs pieces fs rest) (hrest : fragment? rest = none)
    (hfilled : pieces = [] → rest = []) : segment? cs = some (fs, rest) := by
  unfold segment?
  rw [h.fragments_eq hrest]
  cases h with
  | nil => rw [hfilled rfl]; rfl
  | cons => rfl

/-- A text starts with segments, each after a slash and none of them empty but at the end of the text,
and goes on with the rest. -/
inductive ReadsSegments :
    List Char → List (List Piece) → List (List PathFragment) → List Char → Prop
  | nil (rest : List Char) : ReadsSegments rest [] [] rest
  | cons {tail cs rest : List Char} {pieces : List Piece} {fs : List PathFragment}
      {segments : List (List Piece)} {more : List (List PathFragment)}
      (hpieces : Reads tail pieces fs cs) (hfilled : pieces = [] → cs = [])
      (hmore : ReadsSegments cs segments more rest) :
      ReadsSegments ('/' :: tail) (pieces :: segments) (fs :: more) rest

variable {segments : List (List Piece)} {more : List (List PathFragment)}

theorem exists_readsSegments (cs : List Char) :
    ∃ segments, ReadsSegments cs segments (moreSegments cs).1 (moreSegments cs).2 := by
  fun_induction moreSegments cs with
  | case1 tail => exact ⟨[], .nil _⟩
  | case2 tail s rest hsegment more rest' hmore ih =>
    rw [hmore] at ih
    obtain ⟨segments, hsegments⟩ := ih
    obtain ⟨pieces, hpieces, hfilled⟩ := exists_reads_of_segment? hsegment
    exact ⟨pieces :: segments, .cons hpieces hfilled hsegments⟩
  | case3 cs => exact ⟨[], .nil cs⟩

theorem ReadsSegments.text (h : ReadsSegments cs segments more rest) :
    cs = Pointer.slashed (segments.map textOf) ++ rest := by
  induction h with
  | nil rest => rfl
  | cons hpieces hfilled hmore ih =>
    rw [List.map_cons, Pointer.slashed_cons, List.cons_append, List.append_assoc, ← ih,
      ← hpieces.text]

theorem ReadsSegments.denotes (h : ReadsSegments cs segments more rest) :
    List.Forall₂ (List.Forall₂ Piece.Denotes) segments more := by
  induction h with
  | nil rest => exact .nil
  | cons hpieces hfilled hmore ih => exact .cons hpieces.denotes ih

theorem ReadsSegments.maximal (h : ReadsSegments cs segments more rest) :
    ∀ segment ∈ segments, Maximal segment := by
  induction h with
  | nil rest => rintro _ ⟨⟩
  | cons hpieces hfilled hmore ih => exact List.forall_mem_cons.2 ⟨hpieces.maximal, ih⟩

/-- Nothing comes after an empty segment. -/
theorem ReadsSegments.eq_nil_of_empty (h : ReadsSegments cs segments more rest)
    {front back : List (List Piece)} (hsplit : segments = front ++ [] :: back) :
    Pointer.slashed (back.map textOf) ++ rest = [] := by
  induction h generalizing front with
  | nil rest => simp at hsplit
  | cons hpieces hfilled hmore ih =>
    cases front with
    | nil =>
      cases hsplit
      rw [← hmore.text]
      exact hfilled rfl
    | cons first front => exact ih (List.cons.inj hsplit).2

theorem ReadsSegments.filled (h : ReadsSegments cs segments more rest) :
    ∀ segment ∈ segments.dropLast, segment ≠ [] := by
  rintro _ hsegment rfl
  obtain ⟨front, back, hfront⟩ := List.append_of_mem hsegment
  -- The last segment still comes after one of the others, with its slash.
  have hne : segments ≠ [] := by
    rintro rfl
    cases hsegment
  have hsplit : segments = front ++ [] :: (back ++ [segments.getLast hne]) := by
    rw [← List.cons_append, ← List.append_assoc, ← hfront, List.dropLast_append_getLast hne]
  have hnil := h.eq_nil_of_empty hsplit
  rw [List.map_append, Pointer.slashed_append, List.map_singleton, Pointer.slashed_cons] at hnil
  simp at hnil

theorem ReadsSegments.full (h : ReadsSegments cs segments more rest) (hrest : rest ≠ []) :
    ∀ segment ∈ segments, segment ≠ [] := by
  rintro _ hsegment rfl
  obtain ⟨front, back, hsplit⟩ := List.append_of_mem hsegment
  exact hrest (List.append_eq_nil_iff.1 (h.eq_nil_of_empty hsplit)).2

/-- Segments end where the text ends or a slash follows, so no fragment follows. -/
theorem ReadsSegments.fragment?_eq_none (h : ReadsSegments cs segments more []) :
    fragment? cs = none := by
  cases h with
  | nil => rfl
  | cons => rfl

theorem moreSegments_of_segment? {tail : List Char} (h : segment? tail = some (fs, rest)) :
    moreSegments ('/' :: tail) = (fs :: (moreSegments rest).1, (moreSegments rest).2) := by
  rw [moreSegments]
  split
  · rename_i heq
    cases h.symm.trans heq
  · rename_i heq
    cases h.symm.trans heq
    rfl

theorem ReadsSegments.moreSegments_eq (h : ReadsSegments cs segments more []) :
    moreSegments cs = (more, []) := by
  generalize hrest : ([] : List Char) = rest at h
  induction h with
  | nil rest =>
    subst hrest
    unfold moreSegments
    rfl
  | cons hpieces hfilled hmore ih =>
    subst hrest
    have hsegment := hpieces.segment?_eq hmore.fragment?_eq_none hfilled
    rw [moreSegments_of_segment? hsegment, ih rfl]

theorem ReadsSegments.unique {segments' : List (List Piece)} {more' : List (List PathFragment)}
    (h : ReadsSegments cs segments more []) (h' : ReadsSegments cs segments' more' []) :
    segments = segments' := by
  generalize hrest : ([] : List Char) = rest at h
  induction h generalizing segments' more' with
  | nil rest =>
    subst hrest
    cases h'
    rfl
  | cons hpieces hfilled hmore ih =>
    subst hrest
    cases h' with
    | cons hpieces' hfilled' hmore' =>
      obtain ⟨rfl, rfl⟩ :=
        hpieces.unique hpieces' rfl hmore.fragment?_eq_none hmore'.fragment?_eq_none
      rw [ih hmore' rfl]

/-- Segments that are as long as they can be are read. -/
theorem readsSegments_of_maximal
    (hdenotes : List.Forall₂ (List.Forall₂ Piece.Denotes) segments more)
    (hfilled : ∀ segment ∈ segments.dropLast, segment ≠ [])
    (hmaximal : ∀ segment ∈ segments, Maximal segment) :
    ReadsSegments (Pointer.slashed (segments.map textOf)) segments more [] := by
  induction hdenotes with
  | nil => exact .nil []
  | @cons pieces fs segments more hpieces hmore ih =>
    have hslash : ∀ c ∈ (Pointer.slashed (segments.map textOf)).head?, isPathChar c = false := by
      cases segments with
      | nil => rintro _ ⟨⟩
      | cons segment segments =>
        rintro _ ⟨⟩
        decide
    rw [List.map_cons, Pointer.slashed_cons]
    refine .cons (reads_of_maximal hpieces (hmaximal pieces List.mem_cons_self) hslash) ?_
      (ih (fun segment hsegment => hfilled segment ?_)
        fun segment hsegment => hmaximal segment (List.mem_cons_of_mem _ hsegment))
    · rintro rfl
      cases segments with
      | nil => rfl
      | cons segment segments => exact absurd rfl (hfilled [] List.mem_cons_self)
    · cases segments with
      | nil => cases hsegment
      | cons first segments => exact List.mem_cons_of_mem _ hsegment

/-! ## Templates -/

variable {t : PathTemplate}

theorem derives_iff_readsSegments :
    Derives cs segments t ↔ ReadsSegments cs segments t.segments [] ∧ segments ≠ [] := by
  constructor
  · rintro ⟨htext, hne, hfilled, hmaximal, hdenotes⟩
    refine ⟨?_, hne⟩
    have hmap : segments.map textOf ≠ [] := fun h => hne (List.map_eq_nil_iff.1 h)
    rw [htext, ← Pointer.slashed_eq_intercalate hmap]
    exact readsSegments_of_maximal hdenotes hfilled hmaximal
  · rintro ⟨hreads, hne⟩
    have hmap : segments.map textOf ≠ [] := fun h => hne (List.map_eq_nil_iff.1 h)
    refine ⟨?_, hne, hreads.filled, hreads.maximal, hreads.denotes⟩
    rw [← Pointer.slashed_eq_intercalate hmap, ← List.append_nil (Pointer.slashed _)]
    exact hreads.text

/-- Where reading stops before the end, a template has been read. -/
theorem ReadsSegments.derives {after : List Char} (h : ReadsSegments cs segments more after)
    (hafter : after ≠ []) (hne : segments ≠ []) :
    ∃ before, cs = before ++ after ∧ Derives before segments ⟨more⟩ := by
  have hmap : segments.map textOf ≠ [] := fun h => hne (List.map_eq_nil_iff.1 h)
  refine ⟨_, h.text, Pointer.slashed_eq_intercalate hmap, hne, ?_, h.maximal, h.denotes⟩
  exact fun segment hsegment => h.full hafter segment (List.dropLast_subset _ hsegment)

theorem parseChars_eq_ok_iff :
    parseChars cs = .ok t ↔ moreSegments cs = (t.segments, []) ∧ t.segments ≠ [] := by
  constructor
  · intro h
    unfold parseChars at h
    split at h
    · split at h
      · cases h
      · rename_i hsegment
        split at h
        · rename_i hmore
          cases h
          rw [moreSegments_of_segment? hsegment, hmore]
          exact ⟨rfl, List.cons_ne_nil _ _⟩
        · cases h
    · cases h
  · rintro ⟨hmore, hne⟩
    unfold parseChars
    split
    · rename_i tail
      cases hsegment : segment? tail with
      | none =>
        rw [moreSegments] at hmore
        split at hmore
        · cases (Prod.mk.inj hmore).2
        · rename_i heq
          cases hsegment.symm.trans heq
      | some read =>
        obtain ⟨s, rest⟩ := read
        rw [moreSegments_of_segment? hsegment] at hmore
        obtain ⟨hsegments, hrest⟩ := Prod.mk.inj hmore
        have hpair : moreSegments rest = ((moreSegments rest).1, []) := Prod.ext rfl hrest
        dsimp only
        rw [hpair]
        dsimp only
        rw [hsegments]
    · rename_i hslash
      unfold moreSegments at hmore
      split at hmore
      · exact (hslash _ rfl).elim
      · exact absurd (Prod.mk.inj hmore).1.symm hne

/-- A text is a template exactly if it can be cut as the grammar says. -/
theorem parseChars_eq_ok_iff_derives :
    parseChars cs = .ok t ↔ ∃ segments, Derives cs segments t := by
  rw [parseChars_eq_ok_iff]
  constructor
  · rintro ⟨hmore, hne⟩
    obtain ⟨segments, hreads⟩ := exists_readsSegments cs
    rw [hmore] at hreads
    refine ⟨segments, derives_iff_readsSegments.2 ⟨hreads, ?_⟩⟩
    rintro rfl
    exact hne (List.forall₂_nil_left_iff.1 hreads.denotes)
  · rintro ⟨segments, hderives⟩
    obtain ⟨hreads, hne⟩ := derives_iff_readsSegments.1 hderives
    refine ⟨hreads.moreSegments_eq, fun hnil => ?_⟩
    have hdenotes := hderives.denotes
    rw [hnil] at hdenotes
    exact hne (List.forall₂_nil_right_iff.1 hdenotes)

/-- A text that starts with a slash is accepted up to where reading it stops. -/
theorem exists_derives_of_error {tail : List Char} {e : PathTemplateError}
    (h : parseChars ('/' :: tail) = .error e) :
    ∃ before after segments t, '/' :: tail = before ++ after ∧
      e = .before (before ++ after) after ∧ Derives before segments t := by
  rw [parseChars] at h
  split at h
  · -- No segment comes after the first slash, so the text before is the slash itself.
    cases h
    refine ⟨['/'], tail, [[]], ⟨[[]]⟩, rfl, rfl, derives_iff_readsSegments.2 ⟨?_, by simp⟩⟩
    exact .cons (.nil []) (fun _ => rfl) (.nil [])
  · rename_i s rest hsegment
    split at h
    · cases h
    · rename_i more after hafter hmore
      cases h
      obtain ⟨segments, hreads⟩ := exists_readsSegments ('/' :: tail)
      rw [moreSegments_of_segment? hsegment, hmore] at hreads
      have hne : segments ≠ [] := by
        rintro rfl
        cases hreads
      obtain ⟨before, htext, hderives⟩ := hreads.derives hafter hne
      exact ⟨before, after, segments, _, htext, by rw [← htext], hderives⟩

theorem parseChars_of_no_slash (h : cs.head? ≠ some '/') : parseChars cs = .error (.before cs cs) := by
  unfold parseChars
  split
  · exact absurd rfl h
  · rfl

theorem size_append (cs cs' : List Char) :
    ((cs ++ cs').map Char.utf8Size).foldr Nat.add 0 =
      (cs.map Char.utf8Size).foldr Nat.add 0 + (cs'.map Char.utf8Size).foldr Nat.add 0 := by
  induction cs with
  | nil => exact (Nat.zero_add _).symm
  | cons c cs ih =>
    rw [List.cons_append, List.map_cons, List.map_cons, List.foldr_cons, List.foldr_cons, ih]
    exact (Nat.add_assoc _ _ _).symm

theorem utf8ByteSize_eq_size (cs : List Char) :
    (String.ofList cs).utf8ByteSize = (cs.map Char.utf8Size).foldr Nat.add 0 := by
  induction cs with
  | nil => rfl
  | cons c cs ih =>
    rw [String.ofList_cons, String.utf8ByteSize_append, String.utf8ByteSize_singleton, ih]
    rfl

/-- The offset of the error is the size of the text before it. -/
theorem offset_before (before after : List Char) :
    (PathTemplateError.before (before ++ after) after).offset =
      (String.ofList before).utf8ByteSize := by
  rw [utf8ByteSize_eq_size]
  unfold PathTemplateError.before
  dsimp only
  rw [size_append, Nat.add_sub_cancel]

theorem filterMap_name? (h : List.Forall₂ Piece.Denotes pieces fs) :
    pieces.filterMap Piece.name? = fs.filterMap paramName? := by
  induction h with
  | nil => rfl
  | cons hpiece hmore ih =>
    cases hpiece with
    | literal => exact ih
    | param => exact congrArg _ ih

/-- The parameters of a template are the names in the braces of its text, in order. -/
theorem params_of_derives (h : Derives cs segments t) :
    t.params = segments.flatten.filterMap Piece.name? :=
  (filterMap_name? (List.rel_flatten h.denotes)).symm

/-- A text can be cut in one way only, and stands for one template. -/
theorem Derives.unique {segments' : List (List Piece)} {t' : PathTemplate}
    (h : Derives cs segments t) (h' : Derives cs segments' t') : segments' = segments ∧ t' = t := by
  refine ⟨(derives_iff_readsSegments.1 h').1.unique (derives_iff_readsSegments.1 h).1, ?_⟩
  have hok := parseChars_eq_ok_iff_derives.2 ⟨_, h⟩
  have hok' := parseChars_eq_ok_iff_derives.2 ⟨_, h'⟩
  exact Except.ok.inj (hok'.symm.trans hok)

/-- A text is accepted exactly if it is a text of the grammar, and what is made of it is what it stands
for there. There is only one way to cut it, and the parameters are the names in it, in order. A text
that is not accepted is accepted up to the position of the error, if it starts with a slash, and else
the error is at its start. -/
theorem parse_iff_derives (s : String) :
    (∀ t, parse s = .ok t ↔ ∃ segments, Derives s.toList segments t) ∧
    (∀ segments t, Derives s.toList segments t →
      t.params = segments.flatten.filterMap Piece.name? ∧
        ∀ segments' t', Derives s.toList segments' t' → segments' = segments ∧ t' = t) ∧
    ∀ e, parse s = .error e →
      if s.toList.head? = some '/' then
        ∃ before after, s = before ++ after ∧ before.utf8ByteSize = e.offset ∧
          ∃ t, parse before = .ok t
      else e.offset = 0 := by
  refine ⟨fun t => parseChars_eq_ok_iff_derives, fun segments t h =>
    ⟨params_of_derives h, fun segments' t' h' => h.unique h'⟩, fun e he => ?_⟩
  unfold parse at he
  split
  · rename_i hslash
    obtain ⟨tail, htail⟩ := List.head?_eq_some_iff.1 hslash
    rw [htail] at he
    obtain ⟨before, after, segments, t, htext, rfl, hderives⟩ := exists_derives_of_error he
    refine ⟨String.ofList before, String.ofList after, ?_, (offset_before before after).symm, t, ?_⟩
    · rw [← String.ofList_append, ← htext, ← htail, String.ofList_toList]
    · rw [parse, String.toList_ofList]
      exact parseChars_eq_ok_iff_derives.2 ⟨segments, hderives⟩
  · rename_i hslash
    rw [parseChars_of_no_slash hslash] at he
    cases he
    exact Nat.sub_self _

theorem parse_iff_derives_pet :
    parse "/\x7bpet/id\x7d.json" = .ok ⟨[[.param "pet/id", .literal ".json"]]⟩ ∧
      params ⟨[[.param "pet/id", .literal ".json"]]⟩ = ["pet/id"] ∧
      parse "//" = .error ⟨1, 1⟩ ∧
      ∃ before after, "//" = before ++ after ∧ before.utf8ByteSize = 1 ∧
        ∃ t, parse before = .ok t := by
  have hparam : (Piece.param "pet/id".toList).Denotes (.param "pet/id") := by
    have h : (Piece.param "pet/id".toList).Denotes _ := .param (by decide) (by decide) (by decide)
    rwa [String.ofList_toList] at h
  have hliteral : (Piece.literal ".json".toList).Denotes (.literal ".json") := by
    have hrun : ".json".toList.all isPathChar = true := by cbv
    have hdecode : Text.Percent.decode? ".json".toList = some ".json".toList := by cbv
    have h : (Piece.literal ".json".toList).Denotes _ :=
      .literal (by decide) (List.all_eq_true.1 hrun) hdecode
    rwa [String.ofList_toList] at h
  have htext : "/\x7bpet/id\x7d.json".toList =
      '/' :: ((Piece.param "pet/id".toList).text ++
        ((Piece.literal ".json".toList).text ++ [])) := by decide
  have hderives : Derives "/\x7bpet/id\x7d.json".toList
      [[.param "pet/id".toList, .literal ".json".toList]]
      ⟨[[.param "pet/id", .literal ".json"]]⟩ := by
    rw [htext]
    refine derives_iff_readsSegments.2 ⟨.cons (.cons hparam trivial (.cons hliteral ?_ (.nil [])))
      (fun _ => rfl) (.nil []), List.cons_ne_nil _ _⟩
    rintro _ ⟨⟩
  have herror : parse "//" = .error ⟨1, 1⟩ := by
    have hsegment : segment? ['/'] = none := by
      unfold segment?
      rw [(Reads.nil ['/']).fragments_eq rfl]
      rfl
    show parseChars ['/', '/'] = .error ⟨1, 1⟩
    rw [parseChars, hsegment]
    rfl
  obtain ⟨haccepted, hcut, -⟩ := parse_iff_derives "/\x7bpet/id\x7d.json"
  obtain ⟨-, -, hrejected⟩ := parse_iff_derives "//"
  have hslash : "//".toList.head? = some '/' := by decide
  have hbefore := hrejected _ herror
  rw [if_pos hslash] at hbefore
  refine ⟨(haccepted _).2 ⟨_, hderives⟩, ?_, herror, hbefore⟩
  rw [(hcut _ _ hderives).1]
  decide

end ApiShape.PathTemplate
