import ApiShape.Number.Shortest

/-!
# Numbers

A number is an integer of 64 bits, signed or unsigned, or a floating-point number. The two kinds
are kept apart: `1` and `1.0` are different numbers, and are written differently.
-/

namespace ApiShape

/-- A number as a document holds it. -/
inductive Number where
  | int (n : Int)
  | float (x : Binary64)
  deriving Repr

namespace Number

/-- Equality of numbers of one kind; a number of the other kind is never equal. -/
def equal : Number → Number → Bool
  | .int m, .int n => m == n
  | .float x, .float y => x.equal y
  | _, _ => false

instance : BEq Number := ⟨equal⟩

/-- The least integer that is kept as an integer. -/
def minInt : Int := -(Nat.pow 2 63)

/-- The greatest integer that is kept as an integer. -/
def maxInt : Nat := Nat.pow 2 64 - 1

/-- The number as a natural number of 64 bits. -/
def nat? : Number → Option Nat
  | .int n => if 0 ≤ n ∧ n ≤ maxInt then some n.toNat else none
  | .float _ => none

/-- The floating-point number nearest to the number. -/
def toFloat? : Number → Option Binary64
  | .int n => Binary64.round? (n < 0) n.natAbs 1 0
  | .float x => some x

/-- The decimal digits of a natural number. -/
def digits (n : Nat) : List Char :=
  Nat.toDigits 10 n

/-- Positional notation: there is always a digit on both sides of the point. -/
def positional (d : Binary64.Decimal) : List Char :=
  let ds := digits d.coefficient
  if 0 ≤ d.exponent then ds ++ List.replicate d.exponent.toNat '0' ++ ['.', '0']
  else
    let places := (-d.exponent).toNat
    if places < ds.length then ds.take (ds.length - places) ++ '.' :: ds.drop (ds.length - places)
    else '0' :: '.' :: List.replicate (places - ds.length) '0' ++ ds

/-- Scientific notation: one digit before the point, and a signed exponent. -/
def scientific (d : Binary64.Decimal) (exponent : Int) : List Char :=
  let mark := if exponent < 0 then ['e', '-'] else ['e', '+']
  match digits d.coefficient with
  | [] => []
  | [c] => c :: mark ++ digits exponent.natAbs
  | c :: cs => c :: '.' :: cs ++ mark ++ digits exponent.natAbs

/-- The text of a floating-point number: shortest digits, positional from `0.00001` up to
`10 ^ 16`, scientific outside. -/
def floatText (x : Binary64) : List Char :=
  let unsigned :=
    if x.isZero then ['0', '.', '0']
    else
      let d := x.shortest
      let exponent : Int := d.exponent + (digits d.coefficient).length - 1
      if -5 ≤ exponent ∧ exponent ≤ 15 then positional d else scientific d exponent
  if x.negative then '-' :: unsigned else unsigned

/-- The text of an integer. -/
def intText (n : Int) : List Char :=
  if n < 0 then '-' :: digits n.natAbs else digits n.natAbs

/-- The text of a number. -/
def text : Number → List Char
  | .int n => intText n
  | .float x => floatText x

end Number

end ApiShape
