import ApiShape.Proofs.Text.Blank
import ApiShape.Proofs.Text.Utf8
import ApiShape.Text.Percent

/-!
# Percent-encoding piece by piece

A percent-encoded text can be decoded piece by piece, as long as no piece begins with a hexadecimal
digit, which a percent sign at the end of the piece before would take in.
-/

namespace ApiShape.Text.Percent

variable {c : Char} {cs cs' rest : List Char}

/-- A character that begins no octet stands for itself. -/
theorem octets_cons (h : c = '%' → ∀ high low more, rest = high :: low :: more →
    octet? high low = none) : octets (c :: rest) = String.utf8EncodeChar c ++ octets rest := by
  by_cases hc : c = '%'
  · subst hc
    match rest, h with
    | [], _ => rfl
    | [_], _ =>
      rw [octets]
      intro high low more _ heq
      cases heq
    | high :: low :: more, h =>
      rw [octets, h rfl high low more rfl]
      rfl
  · rw [octets]
    intro _ _ _ heq
    exact absurd heq hc

theorem octet?_of_hexDigit?_left {high low : Char} (h : hexDigit? high = none) :
    octet? high low = none := by
  unfold octet?
  rw [h]

theorem octet?_of_hexDigit?_right {high low : Char} (h : hexDigit? low = none) :
    octet? high low = none := by
  unfold octet?
  rw [h]
  cases hexDigit? high <;> rfl

/-- What begins with no hexadecimal digit adds its own octets. -/
theorem octets_append (hrest : ∀ c ∈ rest.head?, hexDigit? c = none) (cs : List Char) :
    octets (cs ++ rest) = octets cs ++ octets rest := by
  induction cs using octets.induct with
  | case1 => rfl
  | case2 high low more b hb ih =>
    simp only [List.cons_append, octets, hb, ih]
  | case3 high low more hb ih =>
    rw [List.cons_append, List.cons_append] at ih
    simp only [List.cons_append, octets, hb, ih]
  | case4 c more h ih =>
    have hself : octets (c :: more) = String.utf8EncodeChar c ++ octets more := by
      refine octets_cons fun hc high low tail hmore => ?_
      exact (h high low tail hc hmore).elim
    rw [List.cons_append, hself, List.append_assoc, ← ih]
    refine octets_cons fun hc high low tail hmore => ?_
    -- A percent sign here has one character after it at most, so the next piece comes in.
    match more, hmore, h with
    | [], hmore, _ =>
      rw [List.nil_append] at hmore
      exact octet?_of_hexDigit?_left (hrest high (by rw [hmore]; rfl))
    | [x], hmore, _ =>
      rw [List.singleton_append] at hmore
      have hlow := (List.cons.inj hmore).2
      exact octet?_of_hexDigit?_right (hrest low (by rw [hlow]; rfl))
    | x :: y :: _, _, h => exact (h x y _ hc rfl).elim

/-- A text that can be decoded is decoded in the same way before another one. -/
theorem decodeLossy_append (h : decode? cs = some cs') (hrest : ∀ c ∈ rest.head?, hexDigit? c = none) :
    decodeLossy (cs ++ rest) = cs' ++ decodeLossy rest := by
  unfold decodeLossy
  rw [octets_append hrest]
  exact Utf8.decodeLossy_append h _

/-- A text that can be decoded with blanks after it can be decoded without them. -/
theorem isSome_decode?_trimEnd (h : (decode? cs).isSome = true) :
    (decode? (trimEnd cs)).isSome = true := by
  obtain ⟨trail, hcs, htrail⟩ := exists_eq_trimEnd cs
  unfold decode? at h ⊢
  cases trail with
  | nil =>
    rw [List.append_nil] at hcs
    rwa [← hcs]
  | cons c trail =>
    have hblank := htrail c List.mem_cons_self
    have hhead : ∀ c' ∈ (c :: trail).head?, hexDigit? c' = none := by
      rintro _ ⟨⟩
      exact hexDigit?_of_isBlank hblank
    obtain ⟨b, more, hb, hfresh⟩ := Utf8.exists_isFresh_encodeChar c
    rw [hcs, octets_append hhead, octets_cons fun heq =>
      absurd heq (ne_of_isBlank hblank (by decide) (by decide)), hb, List.cons_append] at h
    exact Utf8.isSome_decode?_of_append hfresh h

theorem decodeLossy_cons (hc : c ≠ '%') (rest : List Char) :
    decodeLossy (c :: rest) = c :: decodeLossy rest := by
  unfold decodeLossy
  rw [octets_cons fun h => absurd h hc]
  exact Utf8.decodeLossy_encodeChar c _

theorem decodeLossy_append_blanks {lead : List Char} (h : ∀ c ∈ lead, isBlank c = true)
    (rest : List Char) : decodeLossy (lead ++ rest) = lead ++ decodeLossy rest := by
  induction lead with
  | nil => rfl
  | cons c lead ih =>
    rw [List.forall_mem_cons] at h
    rw [List.cons_append, decodeLossy_cons (ne_of_isBlank h.1 (by decide) (by decide)), ih h.2,
      List.cons_append]

end ApiShape.Text.Percent
