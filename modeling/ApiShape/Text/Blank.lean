import ApiShape.Text.Ranges

/-!
# Blank space

The characters of the property White_Space, and texts without the blank space around them.
-/

namespace ApiShape.Text

/-- The property White_Space. -/
def whiteSpace : Ranges :=
  [ (0x09, 0x0D), (0x20, 0x20), (0x85, 0x85), (0xA0, 0xA0), (0x1680, 0x1680), (0x2000, 0x200A),
    (0x2028, 0x2029), (0x202F, 0x202F), (0x205F, 0x205F), (0x3000, 0x3000) ]

/-- The character is blank space. -/
def isBlank (c : Char) : Bool :=
  whiteSpace.has c

theorem isBlank_of_isWhitespace {c : Char} (h : c.isWhitespace = true) : isBlank c = true := by
  simp only [Char.isWhitespace, Bool.or_eq_true, decide_eq_true_eq] at h
  rcases h with ((rfl | rfl) | rfl) | rfl <;> decide

/-- The text without blank space at its end. -/
def trimEnd (cs : List Char) : List Char :=
  (cs.reverse.dropWhile isBlank).reverse

/-- The text without blank space at its start and end. -/
def trim (cs : List Char) : List Char :=
  trimEnd (cs.dropWhile isBlank)

end ApiShape.Text
