import ApiShape.Text.Blank
import ApiShape.Text.Hexadecimal
import Mathlib.Data.List.TakeWhile

/-!
# Blank space around texts

A text is its trimmed text with blanks around. No blank has a meaning in references: it is no
percent sign, number sign, slash or hexadecimal digit.
-/

namespace ApiShape.Text

variable {c : Char}

/-- A text is what trimming its end leaves, with blanks after it. -/
theorem exists_eq_trimEnd (cs : List Char) :
    ∃ trail, cs = trimEnd cs ++ trail ∧ ∀ c ∈ trail, isBlank c = true := by
  refine ⟨(cs.reverse.takeWhile isBlank).reverse, ?_, fun c hc => ?_⟩
  · unfold trimEnd
    rw [← List.reverse_append, List.takeWhile_append_dropWhile, List.reverse_reverse]
  · exact List.mem_takeWhile_imp (List.mem_reverse.1 hc)

/-- A text is what trimming leaves, with the blanks around that it takes. -/
theorem exists_eq_trim (cs : List Char) :
    ∃ lead trail, cs = lead ++ (trim cs ++ trail) ∧ (∀ c ∈ lead, isBlank c = true) ∧
      ∀ c ∈ trail, isBlank c = true := by
  obtain ⟨trail, htrim, htrail⟩ := exists_eq_trimEnd (cs.dropWhile isBlank)
  refine ⟨cs.takeWhile isBlank, trail, ?_, fun c hc => List.mem_takeWhile_imp hc, htrail⟩
  unfold trim
  rw [← htrim, List.takeWhile_append_dropWhile]

/-- What ends in no blank keeps its end. -/
theorem trimEnd_append {c : Char} (hc : isBlank c = false) (cs rest : List Char) :
    trimEnd (cs ++ c :: rest) = cs ++ c :: trimEnd rest := by
  unfold trimEnd
  rw [List.reverse_append, List.reverse_cons, List.append_assoc, List.dropWhile_append]
  split
  · rename_i hempty
    rw [List.isEmpty_iff.1 hempty]
    simp [hc]
  · simp

/-- What begins with no blank keeps its start. -/
theorem trim_cons {c : Char} (hc : isBlank c = false) (rest : List Char) :
    trim (c :: rest) = trimEnd (c :: rest) := by
  unfold trim
  rw [List.dropWhile_cons_of_neg (by simp [hc])]

/-- Blanks are control characters, the space, or beyond the letters of ASCII. -/
theorem toNat_of_isBlank (h : isBlank c = true) :
    c.toNat ≤ 0x0D ∨ c.toNat = 0x20 ∨ 0x85 ≤ c.toNat := by
  unfold isBlank Ranges.has whiteSpace at h
  simp only [List.any_cons, List.any_nil, Bool.or_eq_true, Bool.and_eq_true, decide_eq_true_eq,
    Bool.false_eq_true, or_false] at h
  omega

theorem ne_of_isBlank {c' : Char} (h : isBlank c = true) (hlow : 0x20 < c'.toNat)
    (hhigh : c'.toNat < 0x85) : c ≠ c' := by
  rintro rfl
  have := toNat_of_isBlank h
  omega

theorem hexDigit?_eq_some_iff {v : Nat} :
    hexDigit? c = some v ↔ (48 ≤ c.toNat ∧ c.toNat ≤ 57 ∧ v = c.toNat - 48) ∨
      (97 ≤ c.toNat ∧ c.toNat ≤ 102 ∧ v = c.toNat - 87) ∨
      (65 ≤ c.toNat ∧ c.toNat ≤ 70 ∧ v = c.toNat - 55) := by
  have hle : ∀ a b : Char, a ≤ b ↔ a.toNat ≤ b.toNat := fun a b => Iff.rfl
  unfold hexDigit?
  simp only [hle, Char.reduceToNat]
  split
  · rw [Option.some.injEq]
    omega
  split
  · rw [Option.some.injEq]
    omega
  split
  · rw [Option.some.injEq]
    omega
  · exact iff_of_false nofun (by omega)

theorem hexDigit?_of_isBlank (h : isBlank c = true) : hexDigit? c = none := by
  have hc := toNat_of_isBlank h
  refine Option.eq_none_iff_forall_ne_some.2 fun v hv => ?_
  rw [hexDigit?_eq_some_iff] at hv
  omega

end ApiShape.Text
