import ApiShape.Proofs.Document.Walk
import ApiShape.Proofs.Normalize.Locations
import ApiShape.Proofs.Pointer.Fragments

/-!
# Enum values that are skipped

A list or an object among the values of an enum is skipped, and recorded with its location. The
location is a pointer to the value in the text of the document, unless it takes a detour.
-/

namespace ApiShape

variable {K : Diagnostic → Prop} {E : NormalizeError → Prop}

namespace Document

variable {d : Document} {x : Diagnostic}

/-! ## Where values are skipped -/

end Document

/-! ## What locations say about the text -/

namespace Document

end Document

end ApiShape
