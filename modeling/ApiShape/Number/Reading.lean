import ApiShape.Number.Basic

/-!
# Numbers as written

A number is written with whole digits, and maybe a fraction and an exponent. Without either it is an
integer as far as 64 bits go. Otherwise its significant digits are collected as far as 64 bits go,
and the power of ten is applied to them in floating point, one rounded step at a time. So the result
is not always the number nearest to the text.
-/

namespace ApiShape.Number

/-- A number as written, digit by digit. -/
structure Written where
  negative : Bool
  whole : List Nat
  fraction : Option (List Nat)
  /-- The sign and the digits of the exponent. -/
  exponent : Option (Bool × List Nat)

/-- The significant digits collected so far, and the power of ten they are to be multiplied by. -/
structure Significand where
  digits : Nat
  power : Int
  /-- A digit did not fit. -/
  full : Bool

namespace Significand

/-- One more digit before the point. From the first that does not fit, a digit only moves the
power. -/
def whole (s : Significand) (d : Nat) : Significand :=
  if !s.full && s.digits * 10 + d ≤ maxInt then { s with digits := s.digits * 10 + d }
  else { s with power := s.power + 1, full := true }

/-- One more digit after the point. From the first that does not fit, digits are dropped. -/
def fraction (s : Significand) (d : Nat) : Significand :=
  if !s.full && s.digits * 10 + d ≤ maxInt then
    { s with digits := s.digits * 10 + d, power := s.power - 1 }
  else { s with full := true }

end Significand

/-- The number that digits stand for. -/
def ofDigits (ds : List Nat) : Nat :=
  ds.foldl (fun n d => n * 10 + d) 0

/-- The greatest exponent that a number may be written with. -/
def maxExponent : Nat := Nat.pow 2 31 - 1

/-- Ten to the power `n`, rounded. -/
def powerOfTen? (n : Nat) : Option Binary64 :=
  Binary64.ofDecimal? false 1 n

/-- Divides by ten to the power `n`, in steps of at most 308. -/
def divideByTens (x : Binary64) (n : Nat) : Option Binary64 :=
  if n ≤ 308 then do x.div? (← powerOfTen? n)
  else if x.isZero then some x
  else do divideByTens (← x.div? (← powerOfTen? 308)) (n - 308)
termination_by n

/-- The significant digits times the power of ten, if it is within range. -/
def scaleByTens (digits : Nat) (power : Int) : Option Binary64 := do
  let x ← Binary64.ofNat? digits
  if 0 ≤ power then
    if 308 < power then if x.isZero then some x else none
    else x.mul? (← powerOfTen? power.toNat)
  else
    divideByTens x (-power).toNat

/-- The power of ten that is written after the digits, or `none` if it has too many digits to be
one. -/
def exponentOf (digits : List Nat) : Option Nat :=
  let n := ofDigits digits
  if n ≤ maxExponent then some n else none

/-- The value of a number as written, or `none` if it is out of range. -/
def Written.value? (w : Written) : Option Number :=
  let whole := w.whole.foldl Significand.whole ⟨0, 0, false⟩
  let signed (x : Binary64) : Number := .float (if w.negative then x.neg else x)
  match w.fraction, w.exponent with
  | none, none =>
    if whole.full then (scaleByTens whole.digits whole.power).map signed
    else if !w.negative then some (.int whole.digits)
    else if 0 < whole.digits && minInt ≤ -(whole.digits : Int) then some (.int (-whole.digits))
    else (Binary64.ofNat? whole.digits).map signed
  | fraction, exponent =>
    -- The fraction is collected afresh: room left by a digit that did not fit is used.
    let all := (fraction.getD []).foldl Significand.fraction { whole with full := false }
    match exponent with
    | none => (scaleByTens all.digits all.power).map signed
    | some (down, digits) =>
      match exponentOf digits with
      | some n =>
        (scaleByTens all.digits (if down then all.power - n else all.power + n)).map signed
      | none => if all.digits = 0 || down then some (signed (Binary64.zero false)) else none

/-- The value of a decimal digit. -/
def digit? (c : Char) : Option Nat :=
  if c.isDigit then some (c.toNat - 48) else none

/-- The digits that a text starts with, and the rest. -/
def takeDigits (cs : List Char) : List Nat × List Char :=
  ((cs.takeWhile Char.isDigit).filterMap digit?, cs.dropWhile Char.isDigit)

/-- The number that a text starts with, and the rest. A zero stands alone before the point, and
there is a digit after a point and in an exponent. -/
def Written.scan (cs : List Char) : Option (Written × List Char) := do
  let (negative, cs) := match cs with
    | '-' :: rest => (true, rest)
    | _ => (false, cs)
  let (whole, cs) := takeDigits cs
  if whole = [] || (whole.head? = some 0 && 1 < whole.length) then none
  let (fraction, cs) ← match cs with
    | '.' :: rest =>
      let (digits, rest) := takeDigits rest
      if digits = [] then none else some (some digits, rest)
    | _ => some (none, cs)
  let unsigned (down : Bool) (cs : List Char) : Option (Option (Bool × List Nat) × List Char) :=
    let (digits, rest) := takeDigits cs
    if digits = [] then none else some (some (down, digits), rest)
  let (exponent, cs) ← match cs with
    | 'e' :: '+' :: rest | 'E' :: '+' :: rest => unsigned false rest
    | 'e' :: '-' :: rest | 'E' :: '-' :: rest => unsigned true rest
    | 'e' :: rest | 'E' :: rest => unsigned false rest
    | _ => some (none, cs)
  return (⟨negative, whole, fraction, exponent⟩, cs)

end ApiShape.Number
