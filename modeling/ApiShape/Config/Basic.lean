import ApiShape.MediaType

/-!
# Configuration

What tunes the normalization of a document. Every option has a default.
-/

namespace ApiShape

/-- The options of a normalization. -/
structure Config where
  /-- Patterns of media types, the most preferred first. -/
  mediaTypes : List String :=
    ["application/json", "*+json", "multipart/form-data", "application/x-www-form-urlencoded",
      "text/*", "application/octet-stream", "*/*"]
  /-- Words that make a default response a success. -/
  successKeywords : List String := ["success"]
  /-- Words that make a default response an error. -/
  errorKeywords : List String := ["error", "problem"]
  /-- Fail on a repeated operation ID instead of renaming the repetition. -/
  strictOperationIds : Bool := false
  deriving DecidableEq, Repr

namespace Config

/-- The position of the first preference that matches a media type. -/
def mediaTypeRank? (config : Config) (mediaType : String) : Option Nat :=
  let essence := MediaType.essence mediaType
  config.mediaTypes.findIdx? fun pattern => MediaType.patternMatches pattern.toList essence

/-- Whether one rank is better than another; no rank at all is the worst. -/
def betterRank : Option Nat → Option Nat → Bool
  | some m, some n => m < n
  | some _, none => true
  | none, _ => false

/-- The most preferred of some choices, and the first of equally preferred ones. -/
def pick? (config : Config) (mediaType : α → String) (choices : List α) : Option α :=
  let better (best : Option α) (choice : α) : Option α :=
    match best with
    | none => some choice
    | some b =>
      let rank (a : α) := config.mediaTypeRank? (mediaType a)
      if betterRank (rank choice) (rank b) then some choice else some b
  choices.foldl better none

end Config

end ApiShape
