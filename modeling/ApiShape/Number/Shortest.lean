import ApiShape.Number.Binary64

/-!
# Shortest decimals

The decimal with the fewest digits that reads back as a given floating-point number, and of those
the one nearest to it.
-/

namespace ApiShape.Binary64

/-- The decimal `coefficient * 10 ^ exponent`. -/
structure Decimal where
  coefficient : Nat
  exponent : Int
  deriving DecidableEq, Repr

/-- The reals that round to a positive number: fractions of one denominator, around the number
itself. The ends belong to the interval when they are halfway to an odd mantissa. -/
structure Interval where
  low : Nat
  value : Nat
  high : Nat
  den : Nat
  closed : Bool

/-- The interval of a number. Below a power of two the neighbour is half as far away. -/
def interval (x : Binary64) : Interval :=
  let narrow := x.mantissa = Nat.pow 2 52 ∧ -1074 < x.exponent
  let power := x.exponent - 2
  let up (n : Nat) : Nat := n * Nat.pow 2 power.toNat
  { low := up (4 * x.mantissa - if narrow then 1 else 2)
    value := up (4 * x.mantissa)
    high := up (4 * x.mantissa + 2)
    den := Nat.pow 2 (-power).toNat
    closed := x.mantissa % 2 = 0 }

/-- The decimal lies in the interval. -/
def Interval.holds (i : Interval) (d : Decimal) : Bool :=
  let n := d.coefficient * Nat.pow 10 d.exponent.toNat * i.den
  let p := Nat.pow 10 (-d.exponent).toNat
  if i.closed then i.low * p ≤ n && n ≤ i.high * p else i.low * p < n && n < i.high * p

/-- The largest `k` with `10 ^ k ≤ num / den`, for a fraction of at least `1 / den` that is not
zero. -/
def floorLog10 (num den : Nat) : Int :=
  let guess := ((Nat.log2 num : Int) - Nat.log2 den) * 30103 / 100000 - 1
  let reaches (k : Int) : Bool := den * Nat.pow 10 k.toNat ≤ num * Nat.pow 10 (-k).toNat
  if reaches (guess + 2) then guess + 2 else if reaches (guess + 1) then guess + 1 else guess

/-- The nearest decimal of the interval among the multiples of `10 ^ exponent`. Only the two
neighbours of the number itself can be the nearest; a tie goes to the even coefficient. -/
def Interval.nearest? (i : Interval) (exponent : Int) : Option Decimal :=
  let num := i.value * Nat.pow 10 (-exponent).toNat
  let den := i.den * Nat.pow 10 exponent.toNat
  let below : Decimal := ⟨num / den, exponent⟩
  let above : Decimal := ⟨num / den + 1, exponent⟩
  let twice := 2 * (num % den)
  let first := twice < den ∨ (twice = den ∧ below.coefficient % 2 = 0)
  let (near, far) := if first then (below, above) else (above, below)
  if i.holds near then some near else if i.holds far then some far else none

/-- The shortest decimal of a positive number; seventeen digits are always enough. A single digit
that rounds up to ten is a one in the next place. -/
def shortest (x : Binary64) : Decimal :=
  let i := x.interval
  let top := floorLog10 i.value i.den
  let found := (List.range 17).findSome? fun k : Nat => i.nearest? (top - k)
  match found with
  | some ⟨10, exponent⟩ => ⟨1, exponent + 1⟩
  | some d => d
  | none => ⟨x.mantissa, x.exponent⟩

end ApiShape.Binary64
