import ApiShape.Text.Table.Cased
import ApiShape.Text.Table.CaseIgnorable
import ApiShape.Text.Table.CaseMap

/-!
# Letter case

Full case mappings of characters and texts. A capital sigma at the end of a word has a lower-case
form of its own, so the lower case of a text is not the lower case of its characters one by one.
-/

namespace ApiShape.Text

/-- A mapping of characters outside ASCII: the expansions come first, then the first shift that
covers the character. A character that neither covers stays. -/
def mapOutsideAscii (expansions : List (Nat × List Nat)) (shifts : List Shift) (c : Char) :
    List Char :=
  match expansions.lookup c.toNat with
  | some ns => ns.map Char.ofNat
  | none =>
    match shifts.findSome? (·.moved? c) with
    | some n => [Char.ofNat n]
    | none => [c]

/-- The lower case of a character on its own. -/
def lowerChar (c : Char) : List Char :=
  if c.toNat < 0x80 then [c.toLower] else mapOutsideAscii lowerExpansions lowerShifts c

/-- The upper case of a character. -/
def upperChar (c : Char) : List Char :=
  if c.toNat < 0x80 then [c.toUpper] else mapOutsideAscii upperExpansions upperShifts c

/-- The folded form of a character: what is left of it where case does not matter. -/
def foldChar (c : Char) : List Char :=
  if c.toNat < 0x80 then [c.toLower]
  else mapOutsideAscii (foldExpansions ++ lowerExpansions) (foldShifts ++ lowerShifts) c

/-- The folded form of a text. -/
def caseFold (cs : List Char) : List Char :=
  cs.flatMap foldChar

/-- The property Lowercase. -/
def isLowercase (c : Char) : Bool :=
  lowercase.has c

/-- The property Uppercase. -/
def isUppercase (c : Char) : Bool :=
  uppercase.has c

/-- The character has case. -/
def isCased (c : Char) : Bool :=
  lowercase.has c || uppercase.has c || titlecase.has c

/-- The first character that is not case-ignorable has case. -/
def reachesCased (cs : List Char) : Bool :=
  match cs.dropWhile caseIgnorable.has with
  | [] => false
  | c :: _ => isCased c

/-- The lower case of the rest of a text, after the characters `before` in reverse. -/
def lowerFrom (before : List Char) : List Char → List Char
  | [] => []
  | c :: rest =>
    let lowered :=
      if c = 'Σ' then
        if reachesCased before && !reachesCased rest then ['ς'] else ['σ']
      else
        lowerChar c
    lowered ++ lowerFrom (c :: before) rest

/-- The lower case of a text. -/
def lower (cs : List Char) : List Char :=
  lowerFrom [] cs

end ApiShape.Text
