import ApiShape.Text.Hexadecimal
import ApiShape.Text.Utf8

/-!
# Percent-encoding

A percent sign and two hexadecimal digits stand for an octet; every other character stands for its
own UTF-8 octets, a percent sign without two digits included.
-/

namespace ApiShape.Text.Percent

/-- The octet that two hexadecimal digits stand for. -/
def octet? (high low : Char) : Option UInt8 :=
  match hexDigit? high, hexDigit? low with
  | some h, some l => some (UInt8.ofNat (16 * h + l))
  | _, _ => none

/-- The octets that a percent-encoded text stands for. -/
def octets : List Char → List UInt8
  | [] => []
  | '%' :: high :: low :: rest =>
    match octet? high low with
    | some b => b :: octets rest
    | none => 0x25 :: octets (high :: low :: rest)
  | c :: rest => String.utf8EncodeChar c ++ octets rest

/-- The text that a percent-encoded text stands for, if its octets are well-formed UTF-8. -/
def decode? (cs : List Char) : Option (List Char) :=
  Utf8.decode? (octets cs)

/-- The text that a percent-encoded text stands for, with replacement characters. -/
def decodeLossy (cs : List Char) : List Char :=
  Utf8.decodeLossy (octets cs)

end ApiShape.Text.Percent
