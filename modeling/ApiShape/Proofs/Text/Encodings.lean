import ApiShape.Proofs.Text.Percent
import ApiShape.Proofs.Text.WellFormed

/-!
# Percent-encodings of octets

An octet is written as it is, or by an escape of two hexadecimal digits in either case. Whichever octets
are written by escapes, the octets are read back as long as every percent sign among them is one: what is
written as it is begins no escape then.
-/

namespace ApiShape.Text.Percent

/-- The digit has the value, as a small letter or a capital. -/
def IsHexDigit (v : Nat) (c : Char) : Prop :=
  c = Nat.digitChar v ∨ c = (Nat.digitChar v).toUpper

instance (v : Nat) (c : Char) : Decidable (IsHexDigit v c) :=
  inferInstanceAs (Decidable (_ ∨ _))

/-- Octets, and the octets of a percent-encoding of them. Every percent sign is written by an escape,
and so may be any other octet. -/
inductive Encodes : List UInt8 → List UInt8 → Prop
  | nil : Encodes [] []
  /-- An octet that is written as it is. -/
  | plain {b : UInt8} {bytes written : List UInt8} (hb : b ≠ 0x25) (h : Encodes bytes written) :
      Encodes (b :: bytes) (b :: written)
  /-- An octet that is written by an escape. -/
  | escape {b : UInt8} {high low : Char} {bytes written : List UInt8}
      (hhigh : IsHexDigit (b.toNat / 16) high) (hlow : IsHexDigit (b.toNat % 16) low)
      (h : Encodes bytes written) :
      Encodes (b :: bytes) (Utf8.encode ['%', high, low] ++ written)

/-- A percent-encoded text stands for another one if its octets are the octets of that one. -/
def StandsFor (written cs : List Char) : Prop :=
  octets written = Utf8.encode cs

variable {b : UInt8} {c high low : Char} {v : Nat} {bytes written tail : List UInt8} {cs cs' : List Char}

theorem decode?_eq_some_iff_standsFor : decode? cs = some cs' ↔ StandsFor cs cs' :=
  Utf8.decode?_eq_some_iff_eq_encode

/-! ## Escapes -/

theorem hexDigit?_of_isHexDigit (hv : v < 16) (h : IsHexDigit v c) : hexDigit? c = some v := by
  have hdigit : ∀ v < 16, hexDigit? (Nat.digitChar v) = some v ∧
      hexDigit? (Nat.digitChar v).toUpper = some v := by decide
  rcases h with rfl | rfl
  · exact (hdigit v hv).1
  · exact (hdigit v hv).2

/-- The digits of an octet are read as the octet. -/
theorem octet?_of_isHexDigit (hhigh : IsHexDigit (b.toNat / 16) high)
    (hlow : IsHexDigit (b.toNat % 16) low) : octet? high low = some b := by
  have hb := b.toNat_lt
  unfold octet?
  rw [hexDigit?_of_isHexDigit (by omega) hhigh, hexDigit?_of_isHexDigit (by omega) hlow]
  dsimp only
  rw [Nat.div_add_mod, UInt8.ofNat_toNat]

/-! ## Encodings that are read -/

/-- What is written is read as the octets. So it is from inside of a character as well, where `tail` is
what is left of the character: no escape comes before its end. -/
theorem Encodes.octets_eq (h : Encodes bytes written) (htail : 0x25 ∉ tail)
    (hwritten : written = tail ++ Utf8.encode cs) : bytes = tail ++ octets cs := by
  -- The encoding is by octets and reading by characters; `tail` holds the one against the other.
  induction h generalizing tail cs with
  | nil =>
    obtain ⟨rfl, hcs⟩ := List.append_eq_nil_iff.1 hwritten.symm
    rw [Utf8.encode_eq_nil_iff.1 hcs]
    rfl
  | @plain b bytes written hb _ ih =>
    cases tail with
    | cons b' tail =>
      obtain ⟨rfl, hrest⟩ := List.cons.inj hwritten
      rw [List.mem_cons, not_or] at htail
      rw [ih htail.2 hrest, List.cons_append]
    | nil =>
      cases cs with
      | nil => cases hwritten
      | cons c rest =>
        have hpercent : c ≠ '%' := by
          rintro rfl
          exact hb (List.cons.inj hwritten).1
        have hmem : 0x25 ∉ String.utf8EncodeChar c :=
          mt (Utf8.mem_encodeChar_iff (d := '%') (by decide)).1 hpercent
        rw [List.nil_append, Utf8.encode_cons] at hwritten
        rw [List.nil_append, octets_cons fun hc => absurd hc hpercent]
        -- The first octet of the character has been written, and the others are still to come.
        cases hchar : String.utf8EncodeChar c with
        | nil => exact absurd hchar String.utf8EncodeChar_ne_nil
        | cons b' more =>
          rw [hchar, List.cons_append] at hwritten
          rw [hchar, List.mem_cons, not_or] at hmem
          obtain ⟨rfl, hrest⟩ := List.cons.inj hwritten
          rw [ih hmem.2 hrest, List.cons_append]
  | @escape b high low bytes written hhigh hlow _ ih =>
    cases tail with
    | cons b' tail =>
      rw [List.mem_cons, not_or] at htail
      exact absurd (List.cons.inj hwritten).1 htail.1
    | nil =>
      obtain ⟨cs, rfl, hrest⟩ := Utf8.exists_of_encode_append hwritten
      have hoctets : octets (['%', high, low] ++ cs) = b :: octets cs := by
        show octets ('%' :: high :: low :: cs) = _
        rw [octets, octet?_of_isHexDigit hhigh hlow]
      rw [hoctets, ih List.not_mem_nil hrest]
      rfl

theorem octets_of_encodes (h : Encodes bytes (Utf8.encode cs)) : octets cs = bytes :=
  (h.octets_eq List.not_mem_nil rfl).symm

/-- No escape has a slash in it. -/
theorem Encodes.slash_mem (h : Encodes bytes written) (hmem : 0x2F ∈ written) : 0x2F ∈ bytes := by
  induction h with
  | nil => exact hmem
  | @plain b bytes written _ _ ih =>
    rw [List.mem_cons] at hmem ⊢
    exact hmem.imp_right ih
  | @escape b high low bytes written hhigh hlow _ ih =>
    have hb := b.toNat_lt
    have hdigit : ∀ v < 16, ¬ IsHexDigit v '/' := by decide
    have hescape : 0x2F ∉ Utf8.encode ['%', high, low] := by
      refine mt (Utf8.mem_encode_iff (d := '/') (by decide)).1 ?_
      simp only [List.mem_cons, List.not_mem_nil, or_false]
      rintro (hc | rfl | rfl)
      · cases hc
      · exact hdigit _ (by omega) hhigh
      · exact hdigit _ (by omega) hlow
    rw [List.mem_append] at hmem
    exact List.mem_cons_of_mem b (ih (hmem.resolve_left hescape))

end ApiShape.Text.Percent
