/-!
# Binary floating point of 64 bits

A finite floating-point number is a sign, a mantissa below `2 ^ 53` and a power of two. Every
operation takes the exact result and rounds it once, to the nearest number and to an even mantissa
in a tie. There is no infinity: what rounds beyond the largest number has no value.
-/

namespace ApiShape

/-- The number `± mantissa * 2 ^ exponent`. Of the representations of a number it is the one with
the largest mantissa that the least exponent, `-1074`, leaves room for. Zero has a sign. -/
structure Binary64 where
  negative : Bool
  mantissa : Nat
  exponent : Int
  deriving DecidableEq, Repr

namespace Binary64

/-- Zero with a sign. -/
def zero (negative : Bool) : Binary64 :=
  ⟨negative, 0, -1074⟩

/-- The same number with the other sign. -/
def neg (x : Binary64) : Binary64 :=
  { x with negative := !x.negative }

/-- The number is zero, of either sign. -/
def isZero (x : Binary64) : Bool :=
  x.mantissa == 0

/-- Equality of value: zeros are equal whatever their sign. -/
def equal (x y : Binary64) : Bool :=
  x == y || (x.isZero && y.isZero)

/-- The whole number nearest to a quotient; halves go to the even neighbour. -/
def roundDiv (num den : Nat) : Nat :=
  let q := num / den
  let twice := 2 * (num % den)
  if twice < den ∨ (twice = den ∧ q % 2 = 0) then q else q + 1

/-- The fraction `num / den * 2 ^ power`. -/
def scale (num den : Nat) (power : Int) : Nat × Nat :=
  if 0 ≤ power then (num * Nat.pow 2 power.toNat, den) else (num, den * Nat.pow 2 (-power).toNat)

/-- The largest `k` with `2 ^ k ≤ num / den`. -/
def floorLog2 (num den : Nat) : Int :=
  let guess : Int := (Nat.log2 num : Int) - Nat.log2 den
  let (n, d) := scale num den (-guess)
  if d ≤ n then guess else guess - 1

/-- The number nearest to `± num / den * 2 ^ power`, if it is within range. -/
def round? (negative : Bool) (num den : Nat) (power : Int) : Option Binary64 :=
  if num = 0 then some (zero negative)
  else
    let (n, d) := scale num den power
    let exponent := max (-1074) (floorLog2 n d - 52)
    let (n, d) := scale n d (-exponent)
    let mantissa := roundDiv n d
    let (mantissa, exponent) :=
      if mantissa = Nat.pow 2 53 then (Nat.pow 2 52, exponent + 1) else (mantissa, exponent)
    if 971 < exponent then none
    else if mantissa = 0 then some (zero negative)
    else some ⟨negative, mantissa, exponent⟩

/-- The number nearest to a natural number. -/
def ofNat? (n : Nat) : Option Binary64 :=
  round? false n 1 0

/-- The number nearest to `± coefficient * 10 ^ exponent`, rounded once. Exponents far outside the
range are answered without computing the power. -/
def ofDecimal? (negative : Bool) (coefficient : Nat) (exponent : Int) : Option Binary64 :=
  if coefficient = 0 then some (zero negative)
  else if 400 < exponent then none
  else if exponent + Nat.log2 coefficient < -400 then some (zero negative)
  else if 0 ≤ exponent then round? negative (coefficient * Nat.pow 10 exponent.toNat) 1 0
  else round? negative coefficient (Nat.pow 10 (-exponent).toNat) 0

/-- The rounded product. -/
def mul? (x y : Binary64) : Option Binary64 :=
  round? (x.negative != y.negative) (x.mantissa * y.mantissa) 1 (x.exponent + y.exponent)

/-- The rounded quotient by a number that is not zero. -/
def div? (x y : Binary64) : Option Binary64 :=
  if y.isZero then none
  else round? (x.negative != y.negative) x.mantissa y.mantissa (x.exponent - y.exponent)

/-- The number in units of `2 ^ exponent`, for an exponent not above its own. -/
def units (x : Binary64) (exponent : Int) : Int :=
  let n : Int := x.mantissa * Nat.pow 2 (x.exponent - exponent).toNat
  if x.negative then -n else n

/-- The rounded sum. A sum of zero is negative only if both terms are. -/
def add? (x y : Binary64) : Option Binary64 :=
  let exponent := min x.exponent y.exponent
  let sum := x.units exponent + y.units exponent
  if sum = 0 then some (zero (x.negative && y.negative))
  else round? (sum < 0) sum.natAbs 1 exponent

/-- The rounded difference. -/
def sub? (x y : Binary64) : Option Binary64 :=
  x.add? y.neg

/-- Order of value. -/
def less (x y : Binary64) : Bool :=
  let exponent := min x.exponent y.exponent
  x.units exponent < y.units exponent

end Binary64

end ApiShape
