import ApiShape.Number.Binary64

/-!
# Similarity of texts

The Jaro-Winkler similarity of two texts, a number from zero to one that grows with the characters
they share at nearby positions, in the same order, and from the start. It is computed in binary
floating point, so that close scores compare as their rounded values do.
-/

namespace ApiShape.Text

/-- A character of the other text, and whether it is already matched. -/
abbrev Flagged := List (Char × Bool)

/-- Matches a character with the first free equal one at a position below `stop`, of those not
before `start`. -/
def takeFree (c : Char) (start stop : Nat) : Nat → Flagged → Option Flagged
  | _, [] => none
  | i, (d, taken) :: rest =>
    if stop ≤ i then none
    else if start ≤ i && c == d && !taken then some ((d, true) :: rest)
    else (takeFree c start stop (i + 1) rest).map ((d, taken) :: ·)

/-- The matched characters of the first text, and the other text with its matches flagged. -/
def matchAll (range : Nat) : Nat → List Char → Flagged → List Char × Flagged
  | _, [], flagged => ([], flagged)
  | i, c :: rest, flagged =>
    match takeFree c (i - range) (i + range + 1) 0 flagged with
    | some flagged =>
      let (matched, flagged) := matchAll range (i + 1) rest flagged
      (c :: matched, flagged)
    | none => matchAll range (i + 1) rest flagged

/-- One. -/
def one : Binary64 :=
  ⟨false, Nat.pow 2 52, -52⟩

/-- The rounded quotient of two natural numbers. -/
def ratio (m n : Nat) : Option Binary64 := do
  (← Binary64.ofNat? m).div? (← Binary64.ofNat? n)

/-- The Jaro similarity. -/
def jaro (a b : List Char) : Option Binary64 :=
  if a = [] ∧ b = [] then some one
  else
    let range := max a.length b.length / 2 - 1
    let (left, flagged) := matchAll range 0 a (b.map (·, false))
    let right := (flagged.filter (·.2)).map (·.1)
    let matched := left.length
    if matched = 0 then some (Binary64.zero false)
    else do
      let swaps := ((left.zip right).filter fun (c, d) => c != d).length / 2
      let sum ← (← ratio matched a.length).add? (← ratio matched b.length)
      let sum ← sum.add? (← ratio (matched - swaps) matched)
      sum.div? (← Binary64.ofNat? 3)

/-- The length of the common start, of at most four characters. -/
def commonStart (a b : List Char) : Nat :=
  (((a.take 4).zip b).takeWhile fun (c, d) => c == d).length

/-- The Jaro-Winkler similarity: above 0.7, a common start brings the score closer to one. -/
def similarity (a b : List Char) : Option Binary64 := do
  let score ← jaro a b
  if (← Binary64.ofDecimal? false 7 (-1)).less score then
    let weight ← (← Binary64.ofDecimal? false 1 (-1)).mul? (← Binary64.ofNat? (commonStart a b))
    score.add? (← weight.mul? (← one.sub? score))
  else
    some score

/-- The candidate most similar to a text, if its score is above 0.8; of equal scores, the last. -/
def closest (text : String) (candidates : List String) : Option String :=
  let better (best : Option (String × Binary64)) (candidate : String) :=
    match similarity text.toList candidate.toList, Binary64.ofDecimal? false 8 (-1) with
    | some score, some bound =>
      if bound.less score && !best.any fun (_, s) => score.less s then some (candidate, score)
      else best
    | _, _ => best
  (candidates.foldl better none).map (·.1)

end ApiShape.Text
