/-!
# Sets and shifts of code points

A property of characters is a list of closed ranges of code points; a case mapping is a list of
shifts, each of which moves a span of code points by a constant distance.
-/

namespace ApiShape.Text

/-- Closed ranges of code points. -/
abbrev Ranges := List (Nat × Nat)

/-- The character lies in one of the ranges. -/
def Ranges.has (ranges : Ranges) (c : Char) : Bool :=
  ranges.any fun (first, last) => first ≤ c.toNat && c.toNat ≤ last

/-- Every `stride`-th code point from `first` to `last` moves by `distance`. -/
structure Shift where
  first : Nat
  last : Nat
  stride : Nat
  distance : Int

/-- The code point that the shift moves the character to, if it covers the character. -/
def Shift.moved? (s : Shift) (c : Char) : Option Nat :=
  let n := c.toNat
  if s.first ≤ n ∧ n ≤ s.last ∧ (n - s.first) % s.stride = 0 then
    some (n + s.distance).toNat
  else
    none

end ApiShape.Text
