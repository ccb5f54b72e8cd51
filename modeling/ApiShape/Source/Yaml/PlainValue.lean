import ApiShape.Number.Reading
import ApiShape.Source.Basic
import ApiShape.Text.Hexadecimal

/-!
# Values of plain scalars

A scalar without quotes is null, a truth value, an integer or a floating-point number if it is
written like one, and a string otherwise. Integers may be written in four bases; decimal digits with
a zero in front are a string.
-/

namespace ApiShape

namespace Source.Yaml

/-- The ways to write null. -/
def nullWords : List String :=
  ["", "~", "null", "Null", "NULL"]

/-- The ways to write a truth value. -/
def flagWords : List (String × Bool) :=
  [("true", true), ("True", true), ("TRUE", true), ("false", false), ("False", false),
    ("FALSE", false)]

/-- The ways to write an infinity, or no number. -/
def nonfiniteWords : List String :=
  [".inf", ".Inf", ".INF", "+.inf", "+.Inf", "+.INF", "-.inf", "-.Inf", "-.INF", ".nan", ".NaN",
    ".NAN"]

/-- The value of a digit below `base`. -/
def digit? (base : Nat) (c : Char) : Option Nat :=
  (Text.hexDigit? c).filter (· < base)

/-- The number that is written with digits below `base`, of which there is at least one. -/
def natural? (base : Nat) : List Char → Option Nat
  | [] => none
  | cs => (cs.mapM (digit? base)).map (·.foldl (fun n d => n * base + d) 0)

/-- A sign that a text starts with, and the rest. -/
def splitSign : List Char → Option Char × List Char
  | '+' :: rest => (some '+', rest)
  | '-' :: rest => (some '-', rest)
  | cs => (none, cs)

/-- Digits that are no number, because a zero stands in front. -/
def hasLeadingZero : List Char → Bool
  | '0' :: c :: rest => (c :: rest).all Char.isDigit
  | _ => false

/-- The natural number that is written in the base that it starts with, or else in decimal. -/
def magnitude? : List Char → Option Nat
  | '0' :: 'x' :: rest => natural? 16 rest
  | '0' :: 'o' :: rest => natural? 8 rest
  | '0' :: 'b' :: rest => natural? 2 rest
  | cs => if hasLeadingZero cs then none else natural? 10 cs

/-- The integer that a text writes. -/
def integer? (cs : List Char) : Option Int :=
  match splitSign cs with
  | (some '-', rest) => (magnitude? rest).map fun n => -(n : Int)
  | (_, rest) => (magnitude? rest).map fun n => (n : Int)

/-- The integers of up to 128 bits. What is larger is no integer. -/
def fitsWide (n : Int) : Bool :=
  -(Nat.pow 2 127) ≤ n && n < Nat.pow 2 128

/-- The exponent that a text is, after the digits of a number. An empty text is an exponent of
zero. -/
def exponent? : List Char → Option Int
  | [] => some 0
  | c :: rest =>
    if c = 'e' || c = 'E' then
      match splitSign rest with
      | (some '-', rest) => (natural? 10 rest).map fun n => -(n : Int)
      | (_, rest) => (natural? 10 rest).map fun n => (n : Int)
    else none

/-- The floating-point number nearest to what a text writes: digits, with or without a point among
them, and maybe an exponent. There is none beyond the largest. -/
def float? (cs : List Char) : Option Binary64 := do
  let (sign, cs) := splitSign cs
  let (whole, cs) := Number.takeDigits cs
  let (fraction, cs) := match cs with
    | '.' :: rest => Number.takeDigits rest
    | _ => ([], cs)
  if whole ++ fraction = [] then none
  let exponent ← exponent? cs
  Binary64.ofDecimal? (sign = some '-') (Number.ofDigits (whole ++ fraction))
    (exponent - fraction.length)

/-- The number that a text writes, if it writes one. -/
def number? (cs : List Char) : Option Scalar :=
  match (integer? cs).filter fitsWide with
  | some n => some (if Number.minInt ≤ n ∧ n ≤ Number.maxInt then .number (.int n) else .wide)
  | none =>
    if hasLeadingZero (splitSign cs).2 then none
    else if nonfiniteWords.contains (String.ofList cs) then some .nonfinite
    else (float? cs).map fun x => .number (.float x)

end Source.Yaml

open Source.Yaml

/-- The value of a scalar without quotes. -/
def Scalar.ofPlain (cs : List Char) : Scalar :=
  let s := String.ofList cs
  if nullWords.contains s then .null
  else
    match flagWords.lookup s, number? cs with
    | some b, _ => .bool b
    | none, some value => value
    | none, none => .string s

/-- A scalar without quotes, whose text is what is written. -/
def Leaf.ofPlain (cs : List Char) : Leaf :=
  ⟨.ofPlain cs, some (String.ofList cs)⟩

end ApiShape
