import ApiShape.Proofs.Pointer.Composition

/-!
# Positions in pointers

A position is written as a numeral, which a pointer reads back as the position if it is small enough.
Pointers can be followed one after the other.
-/

namespace ApiShape.Pointer

variable {α : Type} [Pointee α] {value part : α} {segment : String} {n : Nat}

/-! ## Numerals -/

theorem head?_toDigits_ne_zero (h : 0 < n) : (Nat.toDigits 10 n).head? ≠ some '0' := by
  induction n using Nat.strongRecOn with
  | ind n ih =>
    by_cases hlt : n < 10
    · rw [Nat.toDigits_of_lt_base hlt, List.head?_cons, ne_eq, Option.some.injEq,
        Nat.digitChar_eq_zero]
      omega
    · rw [Nat.toDigits_of_base_le (by decide) (by omega),
        List.head?_append_of_ne_nil _ Nat.toDigits_ne_nil]
      exact ih (n / 10) (by omega) (by omega)

theorem numeral?_toString (n : Nat) : numeral? (toString n).toList = some n := by
  have hdigits : (Nat.toDigits 10 n).all Char.isDigit = true :=
    List.all_eq_true.2 fun _ hc => Nat.isDigit_of_mem_toDigits (by decide) (by decide) hc
  have hvalue : (Nat.toDigits 10 n).foldl (fun n d => n * 10 + (d.toNat - 48)) 0 = n := by
    have h := @Nat.ofDigitChars_ten_toDigits n
    simp only [Nat.ofDigitChars_eq_foldl, Nat.mul_comm 10] at h
    exact h
  rw [Nat.toString_eq_repr, Nat.toList_repr]
  rcases Nat.eq_zero_or_pos n with rfl | hpos
  · rfl
  · have hhead := head?_toDigits_ne_zero hpos
    -- A positive number does not start with a zero, so the numeral is not that of zero.
    match hcs : Nat.toDigits 10 n with
    | [] => exact absurd hcs Nat.toDigits_ne_nil
    | c :: rest =>
      rw [hcs] at hdigits hvalue hhead
      have hc : c ≠ '0' := fun hc => hhead (congrArg some hc)
      unfold numeral?
      split
      · rename_i heq
        exact absurd (List.cons.inj heq).1 hc
      · rename_i c' rest' _ heq
        obtain ⟨rfl, rfl⟩ := List.cons.inj heq
        rw [if_pos ⟨hc, hdigits⟩, hvalue]
      · rename_i heq
        cases heq

theorem index?_toString (h : n < indexBound) : index? (toString n) = some n := by
  unfold index?
  rw [numeral?_toString]
  exact if_pos h

theorem escape_toString (n : Nat) : escape (toString n) = toString n := by
  have hplain : ∀ cs : List Char, (∀ c ∈ cs, c.isDigit = true) → escapeChars cs = cs := by
    intro cs hcs
    induction cs with
    | nil => rfl
    | cons c rest ih =>
      rw [List.forall_mem_cons] at hcs
      rw [escapeChars_cons, ih hcs.2]
      · rintro rfl
        exact absurd hcs.1 (by decide)
      · rintro rfl
        exact absurd hcs.1 (by decide)
  unfold escape
  rw [Nat.toString_eq_repr, Nat.toList_repr, hplain, ← Nat.toList_repr, String.ofList_toList]
  exact fun c hc => Nat.isDigit_of_mem_toDigits (by decide) (by decide) hc

/-! ## Steps and ways -/

theorem step_of_key {entries : Dict α} (hview : Pointee.view value = .keyed entries)
    (hpart : entries.get? segment = some part) (rest : List String) :
    step value segment rest = .ok part := by
  unfold step
  rw [hview]
  dsimp only
  rw [hpart]

theorem step_of_position {items : List α} {i : Nat}
    (hview : Pointee.view value = .indexed items) (hi : index? segment = some i)
    (hpart : items[i]? = some part) (rest : List String) :
    step value segment rest = .ok part := by
  unfold step
  rw [hview]
  dsimp only
  rw [hi]
  dsimp only
  rw [hpart]

/-- Following one pointer after another. -/
theorem follow_append {p q : List String} :
    follow value (p ++ q) = .ok part ↔
      ∃ middle, follow value p = .ok middle ∧ follow middle q = .ok part := by
  rw [follow_append_eq]
  cases follow value p with
  | ok middle => simp only [Except.ok.injEq, exists_eq_left']
  | error e => simp only [reduceCtorEq, false_and, exists_false]

end ApiShape.Pointer
