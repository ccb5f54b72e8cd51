import ApiShape.Text.Blank
import ApiShape.Text.Case

/-!
# Media types

A media type counts by its essence, the part before its parameters. Preferences match essences
without regard to case.
-/

namespace ApiShape

/-- How a body is encoded. -/
inductive MediaKind where
  | json
  | formData
  | urlSearchParams
  | text
  | octetStream
  deriving DecidableEq, Repr

namespace MediaType

/-- The part of a media type before its parameters. -/
def essence (mediaType : String) : List Char :=
  Text.trim (mediaType.toList.takeWhile (· ≠ ';'))

/-- The text ends with `ending`. -/
def endsWith (ending cs : List Char) : Bool :=
  ending.isSuffixOf cs

/-- The kind of encoding that a media type names. Only ASCII letters may differ in case. -/
def kind? (mediaType : String) : Option MediaKind :=
  let name := (essence mediaType).map Char.toLower
  if name = "application/json".toList then some .json
  else if name = "multipart/form-data".toList then some .formData
  else if name = "application/x-www-form-urlencoded".toList then some .urlSearchParams
  else if name = "application/octet-stream".toList then some .octetStream
  else if endsWith "+json".toList name then some .json
  else if "text/".toList.isPrefixOf name then some .text
  else none

/-- The texts differ in case at most. -/
def sameFolded (a b : List Char) : Bool :=
  Text.caseFold a == Text.caseFold b

/-- The size of a text in bytes. -/
def byteSize (cs : List Char) : Nat :=
  (cs.map Char.utf8Size).foldr Nat.add 0

/-- The last `size` bytes of a text, if they begin with a character. -/
def lastBytes? (size : Nat) : List Char → Option (List Char)
  | [] => if size = 0 then some [] else none
  | c :: rest =>
    if byteSize (c :: rest) = size then some (c :: rest) else lastBytes? size rest

/-- An essence matches a pattern: everything matches `*/*`, a pattern that starts with an asterisk
matches by its ending, one that ends with `/*` by its type, and any other by the whole. -/
def patternMatches (pattern essence : List Char) : Bool :=
  match pattern with
  | ['*', '/', '*'] => true
  | '*' :: ending =>
    byteSize ending < byteSize essence &&
      (lastBytes? (byteSize ending) essence).any (sameFolded · ending)
  | _ =>
    if endsWith ['/', '*'] pattern then
      essence.contains '/' &&
        sameFolded (essence.takeWhile (· ≠ '/')) (pattern.take (pattern.length - 2))
    else sameFolded pattern essence

end MediaType

end ApiShape
