import ApiShape.Text.Percent

/-!
# Path templates

A URL path with parameters in braces, such as `/pets/\x7bid\x7d/toys`. Every segment follows a slash
and holds at least one fragment; only the last may be empty. Reading takes as many fragments and
segments as it can, and fails where it has to stop before the end.
-/

namespace ApiShape

/-- A part of a segment. -/
inductive PathFragment where
  /-- Text, with its percent-encoding undone. -/
  | literal (text : String)
  | param (name : String)
  deriving DecidableEq, Repr

/-- A path with parameters, segment by segment. -/
structure PathTemplate where
  segments : List (List PathFragment)
  deriving DecidableEq, Repr

/-- Where a text stops being a path template: the position and the length of the character there,
in bytes. The length is zero at the end of the text. -/
structure PathTemplateError where
  offset : Nat
  length : Nat
  deriving DecidableEq, Repr

namespace PathTemplateError

/-- The message of the error. -/
def message : String :=
  "invalid URL path template"

/-- The error of a text that stops being a template where only `rest` is left. -/
def before (text rest : List Char) : PathTemplateError :=
  let size (cs : List Char) := (cs.map Char.utf8Size).foldr Nat.add 0
  ⟨size text - size rest, (rest.head?.map Char.utf8Size).getD 0⟩

end PathTemplateError

namespace PathTemplate

/-- A character that stands in a path as it is, or the percent sign of an encoded octet. -/
def isPathChar (c : Char) : Bool :=
  c.isAlphanum || ['-', '.', '_', '~', '!', '$', '&', '\'', '(', ')', '*', '+', ',', ';', '=', ':',
    '@', '%'].contains c

/-- A character that can stand in the name of a parameter; a slash can. -/
def isNameChar (c : Char) : Bool :=
  c ≠ '\x7b' && c ≠ '\x7d'

/-- The parameter that a text starts with after its opening brace, and the rest. -/
def param? (cs : List Char) : Option (PathFragment × List Char) :=
  match cs.takeWhile isNameChar, cs.dropWhile isNameChar with
  | c :: name, '\x7d' :: rest => some (.param (String.ofList (c :: name)), rest)
  | _, _ => none

/-- The literal that a text starts with, and the rest. It takes in all the path characters that
follow each other, and they must decode together. -/
def literal? (cs : List Char) : Option (PathFragment × List Char) :=
  match cs.takeWhile isPathChar with
  | [] => none
  | c :: run =>
    (Text.Percent.decode? (c :: run)).map fun decoded =>
      (.literal (String.ofList decoded), cs.dropWhile isPathChar)

/-- The fragment that a text starts with, and the rest. -/
def fragment? : List Char → Option (PathFragment × List Char)
  | '\x7b' :: rest => param? rest
  | cs => literal? cs

theorem length_dropWhile_le (p : Char → Bool) (cs : List Char) :
    (cs.dropWhile p).length ≤ cs.length := by
  induction cs with
  | nil => simp
  | cons c cs ih => by_cases h : p c <;> simp [List.dropWhile, h] <;> omega

theorem length_of_param? {cs rest : List Char} {f : PathFragment}
    (h : param? cs = some (f, rest)) : rest.length < cs.length := by
  unfold param? at h
  split at h
  · rename_i hdrop
    have hle := length_dropWhile_le isNameChar cs
    rw [hdrop] at hle
    simp only [Option.some.injEq, Prod.mk.injEq] at h
    rw [← h.2]
    simp only [List.length_cons] at hle
    omega
  · simp at h

theorem length_of_literal? {cs rest : List Char} {f : PathFragment}
    (h : literal? cs = some (f, rest)) : rest.length < cs.length := by
  unfold literal? at h
  split at h
  · simp at h
  · rename_i c run htake
    simp only [Option.map_eq_some_iff, Prod.mk.injEq] at h
    obtain ⟨_, _, _, rfl⟩ := h
    cases cs with
    | nil => simp at htake
    | cons d ds =>
      by_cases hd : isPathChar d
      · have := length_dropWhile_le isPathChar ds
        simp [List.dropWhile, hd]
        omega
      · simp [List.takeWhile, hd] at htake

theorem length_of_fragment? {cs rest : List Char} {f : PathFragment}
    (h : fragment? cs = some (f, rest)) : rest.length < cs.length := by
  unfold fragment? at h
  split at h
  · have := length_of_param? h
    simp only [List.length_cons]
    omega
  · exact length_of_literal? h

/-- The fragments that a text starts with, and the rest. -/
def fragments (cs : List Char) : List PathFragment × List Char :=
  match _h : fragment? cs with
  | none => ([], cs)
  | some (f, rest) =>
    let (more, rest) := fragments rest
    (f :: more, rest)
termination_by cs.length
decreasing_by exact length_of_fragment? _h

/-- The segment that a text starts with, and the rest. Only at the end of the text is it empty. -/
def segment? (cs : List Char) : Option (List PathFragment × List Char) :=
  match fragments cs with
  | ([], rest) => if rest = [] then some ([], []) else none
  | (f :: more, rest) => some (f :: more, rest)

theorem length_fragments_le (cs : List Char) : (fragments cs).2.length ≤ cs.length := by
  fun_induction fragments cs with
  | case1 => simp
  | case2 cs f rest h more rest' hrec ih =>
    have := length_of_fragment? h
    rw [hrec] at ih
    simp only at ih ⊢
    omega

theorem length_of_segment? {cs rest : List Char} {s : List PathFragment}
    (h : segment? cs = some (s, rest)) : rest.length ≤ cs.length := by
  have hle := length_fragments_le cs
  unfold segment? at h
  split at h
  · split at h
    · simp only [Option.some.injEq, Prod.mk.injEq] at h
      simp [← h.2]
    · simp at h
  · rename_i hfr
    rw [hfr] at hle
    simp only [Option.some.injEq, Prod.mk.injEq] at h
    rw [← h.2]
    exact hle

/-- The segments that a text goes on with, each after a slash, and the rest. -/
def moreSegments (cs : List Char) : List (List PathFragment) × List Char :=
  match cs with
  | '/' :: tail =>
    match _h : segment? tail with
    | none => ([], '/' :: tail)
    | some (s, rest) =>
      let (more, rest) := moreSegments rest
      (s :: more, rest)
  | cs => ([], cs)
termination_by cs.length
decreasing_by
  have := length_of_segment? _h
  simp only [List.length_cons]
  omega

/-- The template that a text is, or where it stops being one. -/
def parseChars (cs : List Char) : Except PathTemplateError PathTemplate :=
  match cs with
  | '/' :: tail =>
    match segment? tail with
    | none => .error (.before cs tail)
    | some (s, rest) =>
      match moreSegments rest with
      | (more, []) => .ok ⟨s :: more⟩
      | (_, rest) => .error (.before cs rest)
  | _ => .error (.before cs cs)

/-- The template that a text is, or where it stops being one. -/
def parse (text : String) : Except PathTemplateError PathTemplate :=
  parseChars text.toList

/-- The name of a fragment that is a parameter. -/
def paramName? : PathFragment → Option String
  | .param name => some name
  | .literal _ => none

/-- The names of the parameters, in order. -/
def params (t : PathTemplate) : List String :=
  t.segments.flatten.filterMap paramName?

end PathTemplate

end ApiShape
