import ApiShape.Text.Case
import ApiShape.Text.Table.Alphanumeric

/-!
# Words in running case

A text is cut into words at every character that is neither letter nor digit, between a lower-case
letter and a capital, and before the last capital of a run of capitals that a lower-case letter
follows. The words, the first in lower case and the others capitalized, make one camel-case word.
-/

namespace ApiShape.Text

/-- The case of the characters of a word read so far. -/
inductive WordMode where
  | boundary
  | lowercase
  | uppercase
  deriving DecidableEq

/-- The case after one more character; a character without case, such as a digit, keeps it. -/
def WordMode.next (mode : WordMode) (c : Char) : WordMode :=
  if isLowercase c then .lowercase else if isUppercase c then .uppercase else mode

/-- The words of a run of letters and digits; `word` holds the current word in reverse. -/
def humps (mode : WordMode) (word : List Char) : List Char → List (List Char)
  | [] => if word = [] then [] else [word.reverse]
  | [c] => [(c :: word).reverse]
  | c :: d :: rest =>
    if mode.next c = .lowercase && isUppercase d then
      (c :: word).reverse :: humps .boundary [] (d :: rest)
    else if mode = .uppercase && isUppercase c && isLowercase d then
      word.reverse :: humps .boundary [c] (d :: rest)
    else
      humps (mode.next c) (c :: word) (d :: rest)

/-- The words of a text. -/
def words (cs : List Char) : List (List Char) :=
  (cs.splitOnP fun c => !alphanumeric.has c).flatMap (humps .boundary [])

/-- The lower case of a word: character by character, a capital sigma at its end in final form. -/
def lowerWord : List Char → List Char
  | [] => []
  | ['Σ'] => ['ς']
  | c :: rest => lowerChar c ++ lowerWord rest

/-- The word with its first character in upper case and the rest in lower case. -/
def capitalize : List Char → List Char
  | [] => []
  | c :: rest => upperChar c ++ lowerWord rest

/-- The words of the text as one camel-case word that starts in lower case. -/
def lowerCamel (cs : List Char) : List Char :=
  match words cs with
  | [] => []
  | first :: rest => lowerWord first ++ rest.flatMap capitalize

end ApiShape.Text
