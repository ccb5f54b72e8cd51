import ApiShape.Json.Basic

/-!
# JSON text

The compact text of a value: no blanks, fields in their order, and only the characters escaped that
must be.
-/

namespace ApiShape.Json

/-- Two hexadecimal digits. -/
def hexPair (n : Nat) : List Char :=
  [Nat.digitChar (n / 16), Nat.digitChar (n % 16)]

/-- A character inside a string. -/
def escapedChar (c : Char) : List Char :=
  if c = '"' then ['\\', '"']
  else if c = '\\' then ['\\', '\\']
  else if c = '\n' then ['\\', 'n']
  else if c = '\r' then ['\\', 'r']
  else if c = '\t' then ['\\', 't']
  else if c = '\x08' then ['\\', 'b']
  else if c = '\x0c' then ['\\', 'f']
  else if c.toNat < 0x20 then ['\\', 'u', '0', '0'] ++ hexPair c.toNat
  else [c]

/-- A string with its quotes. -/
def quotedString (s : String) : List Char :=
  '"' :: s.toList.flatMap escapedChar ++ ['"']

mutual

/-- The compact text of a value. -/
def chars : Json → List Char
  | .null => ['n', 'u', 'l', 'l']
  | .bool true => ['t', 'r', 'u', 'e']
  | .bool false => ['f', 'a', 'l', 's', 'e']
  | .number n => n.text
  | .string s => quotedString s
  | .array items => '[' :: itemChars items ++ [']']
  | .object fields => '\x7b' :: fieldChars fields ++ ['\x7d']

/-- The items of an array, with commas between them. -/
def itemChars : List Json → List Char
  | [] => []
  | [a] => chars a
  | a :: rest => chars a ++ ',' :: itemChars rest

/-- The fields of an object, with commas between them. -/
def fieldChars : List (String × Json) → List Char
  | [] => []
  | [(k, a)] => quotedString k ++ ':' :: chars a
  | (k, a) :: rest => quotedString k ++ ':' :: chars a ++ ',' :: fieldChars rest

end

/-- The compact text of a value. -/
def text (j : Json) : String :=
  String.ofList j.chars

end ApiShape.Json
