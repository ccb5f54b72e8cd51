import ApiShape.Text.Table.Unprintable

/-!
# Quoted text

A text between double quotes, on one line and printable: quotes and backslashes are escaped, the
common controls have short escapes, and whatever would not show is written by its code point.
-/

namespace ApiShape.Text

/-- The digits of a number in lower-case hexadecimal. -/
def hexadecimal (n : Nat) : List Char :=
  Nat.toDigits 16 n

/-- The character would not show on its own. -/
def isHidden (c : Char) : Bool :=
  unprintable.has c || graphemeExtend.has c

/-- A character as it stands between double quotes. -/
def quotedChar (c : Char) : List Char :=
  match c with
  | '\x00' => ['\\', '0']
  | '\t' => ['\\', 't']
  | '\r' => ['\\', 'r']
  | '\n' => ['\\', 'n']
  | '"' => ['\\', '"']
  | '\\' => ['\\', '\\']
  | c => if isHidden c then ['\\', 'u', '\x7b'] ++ hexadecimal c.toNat ++ ['\x7d'] else [c]

/-- The text between double quotes. -/
def quoted (s : String) : String :=
  String.ofList ('"' :: s.toList.flatMap quotedChar ++ ['"'])

end ApiShape.Text
