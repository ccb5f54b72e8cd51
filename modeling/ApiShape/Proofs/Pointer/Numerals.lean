import ApiShape.Document.Target
import ApiShape.Proofs.Pointer.Positions
import Mathlib

/-!
# Numerals that lead into lists

A list is followed by the numerals of its positions, and by no other texts: a numeral has neither a
sign nor leading zeros, so an item has one way to it. A numeral of a position that the list does not
have is out of range, and what is no numeral of a position is an error of its own. That is so in every
kind of list, whether it is a JSON array, a list in a document, or data of a type.
-/

namespace ApiShape.Pointer

variable {cs : List Char} {segment segment' : String} {n : Nat}

/-! ## Texts that are numerals -/

theorem digitChar_toNat {c : Char} (h : c.isDigit = true) :
    c.toNat - 48 < 10 ∧ Nat.digitChar (c.toNat - 48) = c := by
  have hc : 48 ≤ c.toNat ∧ c.toNat ≤ 57 := by
    simpa [Char.isDigit, UInt32.le_iff_toNat_le] using h
  have hlt : c.toNat - 48 < 10 := by omega
  refine ⟨hlt, Char.toNat_inj.1 ?_⟩
  rw [Nat.toNat_digitChar_of_lt_ten hlt]
  omega

/-- Digits after a numeral carry it on. -/
theorem toDigits_ofDigitChars (hn : 0 < n) (h : ∀ c ∈ cs, c.isDigit = true) :
    Nat.toDigits 10 (Nat.ofDigitChars 10 cs n) = Nat.toDigits 10 n ++ cs := by
  induction cs generalizing n with
  | nil => rw [Nat.ofDigitChars_nil, List.append_nil]
  | cons c rest ih =>
    rw [List.forall_mem_cons] at h
    obtain ⟨hlt, hc⟩ := digitChar_toNat h.1
    have hcarry : Nat.toDigits 10 (10 * n + (c.toNat - 48)) = Nat.toDigits 10 n ++ [c] := by
      rw [← Nat.toDigits_append_toDigits (by decide) hn hlt, Nat.toDigits_of_lt_base hlt, hc]
    show Nat.toDigits 10 (Nat.ofDigitChars 10 rest (10 * n + (c.toNat - 48))) = _
    rw [ih (by omega) h.2, hcarry, List.append_assoc]
    rfl

/-- What is read as a number is the numeral of the number. -/
theorem eq_toDigits_of_numeral? (h : numeral? cs = some n) : cs = Nat.toDigits 10 n := by
  unfold numeral? at h
  split at h
  · cases h
    rfl
  · rename_i c rest _
    split at h
    · rename_i hdigits
      obtain ⟨hzero, hall⟩ := hdigits
      rw [List.all_eq_true, List.forall_mem_cons] at hall
      obtain ⟨hlt, hc⟩ := digitChar_toNat hall.1
      -- The first digit is a numeral already, because it is no zero.
      have hpos : 0 < c.toNat - 48 := by
        apply Nat.pos_of_ne_zero
        intro heq
        apply hzero
        rw [← hc, heq]
        rfl
      have hvalue : n = Nat.ofDigitChars 10 rest (c.toNat - 48) := by
        rw [← Option.some.inj h, Nat.ofDigitChars_eq_foldl, List.foldl_cons, Nat.zero_mul, Nat.zero_add]
        simp only [Nat.mul_comm 10]
        rfl
      rw [hvalue, toDigits_ofDigitChars hpos hall.2, Nat.toDigits_of_lt_base hlt, hc]
      rfl
    · cases h
  · cases h

theorem numeral?_eq_some_iff : numeral? segment.toList = some n ↔ segment = toString n := by
  constructor
  · intro h
    apply String.toList_inj.1
    rw [eq_toDigits_of_numeral? h, Nat.toString_eq_repr, Nat.toList_repr]
  · intro h
    rw [h, numeral?_toString]

/-- A segment stands for a position if it is the numeral of the position, and the position is small
enough. -/
theorem index?_eq_some_iff : index? segment = some n ↔ segment = toString n ∧ n < indexBound := by
  rw [← numeral?_eq_some_iff]
  unfold index?
  cases hnumeral : numeral? segment.toList with
  | none => simp only [reduceCtorEq, false_and]
  | some m =>
    dsimp only
    by_cases hm : m < indexBound
    · rw [if_pos hm, Option.some.injEq]
      constructor
      · intro heq
        exact ⟨heq, heq ▸ hm⟩
      · exact And.left
    · rw [if_neg hm]
      constructor
      · nofun
      · intro h
        exact absurd h.2 (Option.some.inj h.1 ▸ hm)

theorem index?_eq_none_iff : index? segment = none ↔ ∀ i < indexBound, segment ≠ toString i := by
  rw [Option.eq_none_iff_forall_ne_some]
  refine forall_congr' fun i => ?_
  rw [ne_eq, index?_eq_some_iff, not_and']

/-! ## Ways into a list -/

section

variable {α : Type} [Pointee α] {value part part' : α} {items : List α} {rest : List String}

/-- What comes of a pointer that begins with the segment, from a list on. -/
inductive Meets (items : List α) (segment : String) (rest : List String) :
    Except PointerError α → Prop
  /-- The numeral of an item's position leads to the item, and the rest is followed from there. -/
  | item (i : Nat) (hi : i < items.length) (hbound : i < 2 ^ 64) (hnumeral : segment = toString i) :
      Meets items segment rest (resolve ⟨rest⟩ items[i])
  /-- The numeral of a position that the list does not have. -/
  | beyond (i : Nat) (hi : items.length ≤ i) (hbound : i < 2 ^ 64) (hnumeral : segment = toString i) :
      Meets items segment rest (.error (.outOfRange i items.length))
  /-- What is no numeral of a position. -/
  | misfit (hnumeral : ∀ i < 2 ^ 64, segment ≠ toString i) :
      Meets items segment rest (.error (.wrongKind (text ⟨segment :: rest⟩) "array"))

theorem meets_of_indexed (hview : Pointee.view value = .indexed items) (segment : String)
    (rest : List String) : Meets items segment rest (resolve ⟨segment :: rest⟩ value) := by
  show Meets items segment rest (follow value (segment :: rest))
  unfold follow step
  rw [hview]
  dsimp only
  cases hindex : index? segment with
  | none => exact .misfit (index?_eq_none_iff.1 hindex)
  | some i =>
    obtain ⟨hnumeral, hbound⟩ := index?_eq_some_iff.1 hindex
    dsimp only
    by_cases hi : i < items.length
    · rw [List.getElem?_eq_getElem hi]
      exact .item i hi hbound hnumeral
    · rw [List.getElem?_eq_none (Nat.le_of_not_lt hi)]
      exact .beyond i (Nat.le_of_not_lt hi) hbound hnumeral

/-- A segment that leads somewhere in a list is the numeral of the position that it leads to. -/
theorem exists_position (hview : Pointee.view value = .indexed items)
    (h : resolve ⟨[segment]⟩ value = .ok part) :
    ∃ i : Nat, items[i]? = some part ∧ segment = toString i := by
  have hmeets := meets_of_indexed hview segment []
  rw [h] at hmeets
  generalize hresult : Except.ok part = result at hmeets
  cases hmeets with
  | item i hi _ hnumeral =>
    refine ⟨i, ?_, hnumeral⟩
    rw [List.getElem?_eq_getElem hi]
    exact congrArg some (Except.ok.inj hresult).symm
  | beyond => cases hresult
  | misfit => cases hresult

end

/-- Positions have one numeral each: a segment stands for a position exactly if it is the numeral of the
position, without sign or leading zeros, and the position is less than 2^64. So from every list on, a
pointer that begins with a segment goes on from the item at the position that the segment is the numeral
of; it is out of range if the list has no such position, and of the wrong kind if there is no such
position at all. Two segments that lead into the list lead to different positions. -/
theorem index?_canonical :
    (∀ (segment : String) (n : Nat),
      index? segment = some n ↔ segment = toString n ∧ n < 2 ^ 64) ∧
    ∀ {α : Type} [Pointee α] (value : α) (items : List α), Pointee.view value = .indexed items →
      (∀ segment rest, Meets items segment rest (resolve ⟨segment :: rest⟩ value)) ∧
      ∀ segment segment' part part', segment ≠ segment' →
        resolve ⟨[segment]⟩ value = .ok part → resolve ⟨[segment']⟩ value = .ok part' →
        ∃ i j : Nat, i ≠ j ∧ items[i]? = some part ∧ items[j]? = some part' ∧
          segment = toString i ∧ segment' = toString j := by
  refine ⟨fun segment n => index?_eq_some_iff, ?_⟩
  intro α _ value items hview
  refine ⟨meets_of_indexed hview, ?_⟩
  intro segment segment' part part' hne h h'
  obtain ⟨i, hi, hnumeral⟩ := exists_position hview h
  obtain ⟨j, hj, hnumeral'⟩ := exists_position hview h'
  refine ⟨i, j, ?_, hi, hj, hnumeral, hnumeral'⟩
  rintro rfl
  exact hne (hnumeral.trans hnumeral'.symm)

/-- The greatest position and the number after it, in JSON and in a document; and two ways into a list of
branches. -/
theorem index?_canonical_greatest :
    let pair : Json := .array [.bool true, .null]
    let branches : Target := .schemaList [.ref ⟨"#/definitions/Cat"⟩, .ref ⟨"#/definitions/Dog"⟩]
    let cat : Target := .reference .schema ⟨"#/definitions/Cat"⟩
    let dog : Target := .reference .schema ⟨"#/definitions/Dog"⟩
    Meets [.bool true, .null] "18446744073709551615" [] (resolve ⟨["18446744073709551615"]⟩ pair) ∧
      resolve ⟨["18446744073709551616"]⟩ pair =
        .error (.wrongKind "/18446744073709551616" "array") ∧
      Meets [cat, dog] "01" ["items"] (resolve ⟨["01", "items"]⟩ branches) ∧
      ∃ i j : Nat, i ≠ j ∧ [cat, dog][i]? = some cat ∧ [cat, dog][j]? = some dog ∧
        "0" = toString i ∧ "1" = toString j := by
  intro pair branches cat dog
  have hpair := index?_canonical.2 pair [.bool true, .null] rfl
  have hbranches := index?_canonical.2 branches [cat, dog] rfl
  refine ⟨hpair.1 _ _, rfl, hbranches.1 _ _, ?_⟩
  exact hbranches.2 "0" "1" cat dog (by decide) rfl rfl

end ApiShape.Pointer
