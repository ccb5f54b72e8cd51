import ApiShape.Normalize.Operation
import ApiShape.Proofs.Alongside.Report
import ApiShape.Proofs.Dict
import ApiShape.Proofs.Report

/-!
# Parameters that are listed more than once

A parameter may be listed by the path and by the operation, and more than once by either. What counts
for an operation is the last parameter of each name and place, in the order in which the names and
places first came.
-/

namespace ApiShape.Document.Site

variable {s : Site} {listed : List Located} {p q : Located}

/-! ## The last parameter of a name and place -/

/-- What tells a parameter from others. -/
def Located.key (p : Located) : String × ParameterLocation :=
  (p.parameter.name, p.parameter.location)

/-- The parameter is listed, and after it none with its name and place. -/
def IsLast (listed : List Located) (p : Located) : Prop :=
  ∃ before after, listed = before ++ p :: after ∧ ∀ q ∈ after, q.key ≠ p.key

theorem IsLast.mem (h : IsLast listed p) : p ∈ listed := by
  obtain ⟨before, after, rfl, -⟩ := h
  exact List.mem_append_right before List.mem_cons_self

/-- There is one last parameter of a name and place. -/
theorem IsLast.unique (hp : IsLast listed p) (hq : IsLast listed q) (h : p.key = q.key) : p = q := by
  obtain ⟨before, after, rfl, hafter⟩ := hp
  obtain ⟨before', after', hlisted, hafter'⟩ := hq
  -- If one came before the other, the other would come after it.
  rcases List.append_eq_append_iff.1 hlisted with ⟨between, -, hrest⟩ | ⟨between, -, hrest⟩
  · cases between with
    | nil => exact (List.cons.inj hrest).1
    | cons r between =>
      have hmem : q ∈ after := by
        rw [(List.cons.inj hrest).2]
        exact List.mem_append_right between List.mem_cons_self
      exact absurd h.symm (hafter q hmem)
  · cases between with
    | nil => exact (List.cons.inj hrest).1.symm
    | cons r between =>
      have hmem : p ∈ after' := by
        rw [(List.cons.inj hrest).2]
        exact List.mem_append_right between List.mem_cons_self
      exact absurd h (hafter' p hmem)

/-! ## Merging -/

/-- Parameters of the place are no part of a body. -/
def isPlain (l : ParameterLocation) : Bool :=
  (plainLocation? l).isSome

end ApiShape.Document.Site
