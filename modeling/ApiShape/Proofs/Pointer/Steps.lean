import ApiShape.Json.Pointee

/-!
# Steps of pointers

What one segment of a pointer leads to, and what the segments one after the other lead to in a JSON
value.
-/

namespace ApiShape

namespace Pointer

variable {α : Type} [Pointee α] {value part : α} {segment : String} {rest : List String}

theorem follow_cons_eq_ok :
    follow value (segment :: rest) = .ok part ↔
      ∃ next, step value segment rest = .ok next ∧ follow next rest = .ok part := by
  rw [follow]
  cases step value segment rest with
  | error e => simp only [reduceCtorEq, false_and, exists_false]
  | ok next => simp only [Except.ok.injEq, exists_eq_left']

/-- A step goes to the part of a name or of a position. -/
theorem cases_of_step (h : step value segment rest = .ok part) :
    (∃ parts, Pointee.view value = .keyed parts ∧ Dict.get? parts segment = some part) ∨
      ∃ parts i, Pointee.view value = .indexed parts ∧ index? segment = some i ∧
        parts[i]? = some part := by
  unfold step at h
  split at h
  · rename_i parts hview
    split at h
    · rename_i hget
      cases h
      exact .inl ⟨parts, hview, hget⟩
    · cases h
  · rename_i parts hview
    split at h
    · cases h
    · rename_i i hi
      split at h
      · rename_i hget
        cases h
        exact .inr ⟨parts, i, hview, hi, hget⟩
      · cases h
  · cases h
  · cases h

end Pointer

namespace Json

/-- The part that a segment leads to in a value that need not be there. -/
def part? : Option Json → String → Option Json
  | some (.object fields), segment => Dict.get? fields segment
  | some (.array items), segment => (Pointer.index? segment).bind (items[·]?)
  | _, _ => none

end Json

end ApiShape
