import ApiShape.Document.Target
import ApiShape.Proofs.Pointer.Segments
import ApiShape.Proofs.Pointer.Steps

/-!
# Pointers one after the other

A pointer that goes on where another one ends is followed by following the two in turn, whatever the
value is: a document, JSON, or data of a type. An error of the first is the error of both, and where the
error tells what could not be followed, it tells of all that is left.
-/

namespace ApiShape

/-- The error of a pointer that goes on with more segments. -/
def PointerError.followedBy (more : Pointer) : PointerError → PointerError
  | .wrongKind left kind => .wrongKind (left ++ more.text) kind
  | e => e

namespace Pointer

variable {α : Type} [Pointee α] {value part : α} {segment : String} {rest path : List String}
  {e : PointerError}

/-- Of what a segment leads to, only the text in an error depends on the segments after it. -/
theorem step_append (value : α) (segment : String) (rest more : List String) :
    step value segment (rest ++ more) =
      (step value segment rest).mapError (PointerError.followedBy ⟨more⟩) := by
  have htext : text ⟨segment :: (rest ++ more)⟩ = text ⟨segment :: rest⟩ ++ text ⟨more⟩ :=
    (text_append (segment :: rest) more).symm
  unfold step
  cases Pointee.view value with
  | keyed entries =>
    dsimp only
    cases entries.get? segment <;> rfl
  | indexed items =>
    dsimp only
    cases index? segment with
    | none =>
      dsimp only
      rw [htext]
      rfl
    | some i =>
      dsimp only
      cases items[i]? <;> rfl
  | leaf kind =>
    dsimp only
    rw [htext]
    rfl
  | absent => rfl

theorem step_eq_ok_iff (rest rest' : List String) :
    step value segment rest = .ok part ↔ step value segment rest' = .ok part := by
  rw [← List.nil_append rest, ← List.nil_append rest', step_append, step_append]
  cases step value segment [] with
  | ok part' => exact Iff.rfl
  | error e => exact iff_of_false nofun nofun

/-- Segments are followed before the ones after them. -/
theorem follow_append_eq (value : α) (path more : List String) :
    follow value (path ++ more) =
      match follow value path with
      | .ok part => follow part more
      | .error e => .error (e.followedBy ⟨more⟩) := by
  induction path generalizing value with
  | nil => rfl
  | cons segment rest ih =>
    rw [List.cons_append, follow, follow, step_append]
    cases step value segment rest with
    | ok part => exact ih part
    | error e => rfl

/-! ## Where a pointer ends -/

/-- An error comes of the first segment that cannot be followed. -/
theorem exists_of_follow_error (h : follow value path = .error e) :
    ∃ before segment after part, path = before ++ segment :: after ∧
      follow value before = .ok part ∧ step part segment after = .error e := by
  induction path generalizing value with
  | nil => cases h
  | cons segment rest ih =>
    rw [follow] at h
    cases hstep : step value segment rest with
    | error e' =>
      rw [hstep] at h
      cases h
      exact ⟨[], segment, rest, value, rfl, rfl, hstep⟩
    | ok part =>
      rw [hstep] at h
      obtain ⟨before, segment', after, part', rfl, hbefore, hafter⟩ := ih h
      refine ⟨segment :: before, segment', after, part', rfl, ?_, hafter⟩
      exact follow_cons_eq_ok.2 ⟨part, (step_eq_ok_iff _ _).1 hstep, hbefore⟩

/-- What could not be followed is told from the segment on, whatever comes after it. -/
theorem step_wrongKind {left kind : String} (h : step value segment rest = .error (.wrongKind left kind)) :
    left = text ⟨segment :: rest⟩ ∧
      ∀ rest', step value segment rest' = .error (.wrongKind (text ⟨segment :: rest'⟩) kind) := by
  unfold step at h ⊢
  cases hview : Pointee.view value with
  | keyed entries =>
    rw [hview] at h
    dsimp only at h
    split at h <;> cases h
  | indexed items =>
    rw [hview] at h
    dsimp only at h ⊢
    split at h
    · cases h
      exact ⟨rfl, fun rest' => rfl⟩
    · split at h <;> cases h
  | leaf kind' =>
    rw [hview] at h
    cases h
    exact ⟨rfl, fun rest' => rfl⟩
  | absent =>
    rw [hview] at h
    cases h

/-! ## Composition -/

/-- A pointer that is made of two is followed by following the first and then the second from there,
with the same part or the same error; if the first cannot be followed, its error stays, and only the
text of what could not be followed goes on. So the pointer that begins a pointer that can be followed can
be followed, and an error about the kind of a value tells exactly the text of what is left, from the first
segment on that cannot be followed. -/
theorem resolve_append (p q : Pointer) (value : α) :
    (p ++ q).resolve value =
        (match p.resolve value with
        | .ok part => q.resolve part
        | .error e => .error (e.followedBy q)) ∧
      ((∃ part, (p ++ q).resolve value = .ok part) → ∃ part, p.resolve value = .ok part) ∧
      ∀ left kind, p.resolve value = .error (.wrongKind left kind) →
        ∃ before segment after, p = before ++ ⟨segment :: after⟩ ∧ left = text ⟨segment :: after⟩ ∧
          (∃ part, before.resolve value = .ok part) ∧
          (before ++ ⟨[segment]⟩).resolve value = .error (.wrongKind (text ⟨[segment]⟩) kind) := by
  have happend : (p ++ q).resolve value = _ := follow_append_eq value p.segments q.segments
  refine ⟨happend, ?_, ?_⟩
  · rintro ⟨part, hpart⟩
    rw [happend] at hpart
    split at hpart
    · rename_i w hw
      exact ⟨w, hw⟩
    · cases hpart
  · intro left kind h
    obtain ⟨segments⟩ := p
    obtain ⟨before, segment, after, part, rfl, hbefore, hstep⟩ := exists_of_follow_error h
    obtain ⟨rfl, hkind⟩ := step_wrongKind hstep
    refine ⟨⟨before⟩, segment, after, rfl, rfl, ⟨part, hbefore⟩, ?_⟩
    change follow value (before ++ [segment]) = _
    rw [follow_append_eq, hbefore]
    dsimp only
    rw [follow, hkind]

/-- A reference is not followed, so what would lead through it is left in the error. -/
theorem resolve_append_owner :
    let schema : Schema := { properties := some [("owner", .ref ⟨"#/components/schemas/Owner"⟩)] }
    resolve (⟨["properties", "owner", "properties"]⟩ ++ ⟨["first/last"]⟩) (Target.schema schema) =
      .error (.wrongKind "/properties/first~1last" "reference") :=
  (resolve_append ⟨["properties", "owner", "properties"]⟩ ⟨["first/last"]⟩ _).1.trans rfl

end Pointer

end ApiShape
