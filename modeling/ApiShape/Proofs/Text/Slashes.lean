import ApiShape.Proofs.Text.Percent
import ApiShape.Proofs.Text.WellFormed

/-!
# Slashes in percent-encoded texts

A percent-encoded text stands for a text with a slash if it has a slash or the escape of one: in UTF-8
the octet of a slash is part of no other character.
-/

namespace ApiShape.Text

/-! ## Words in texts that are put together -/

section

variable {α : Type} {word as bs : List α} {a : α}

theorem prefix_of_prefix_append_cons (ha : a ∉ word) (h : word <+: as ++ a :: bs) : word <+: as := by
  induction as generalizing word with
  | nil =>
    rcases List.prefix_cons_iff.1 h with rfl | ⟨more, rfl, -⟩
    · exact List.nil_prefix
    · exact absurd List.mem_cons_self ha
  | cons b as ih =>
    rcases List.prefix_cons_iff.1 h with rfl | ⟨more, rfl, hmore⟩
    · exact List.nil_prefix
    · exact List.cons_prefix_cons.2 ⟨rfl, ih (mt (List.mem_cons_of_mem b) ha) hmore⟩

/-- A word is on one side of what it does not hold. -/
theorem infix_append_cons_iff (ha : a ∉ word) :
    word <:+: as ++ a :: bs ↔ word <:+: as ∨ word <:+: bs := by
  constructor
  · intro h
    induction as with
    | nil =>
      rcases List.infix_cons_iff.1 h with hprefix | h
      · have hnil : word <+: [] := prefix_of_prefix_append_cons ha hprefix
        exact .inl hnil.isInfix
      · exact .inr h
    | cons c as ih =>
      rcases List.infix_cons_iff.1 h with hprefix | h
      · have has : word <+: c :: as := prefix_of_prefix_append_cons ha hprefix
        exact .inl has.isInfix
      · exact (ih h).imp_left List.infix_cons
  · rintro (h | h)
    · exact h.trans (List.prefix_append as _).isInfix
    · exact h.trans ((List.suffix_cons a bs).trans (List.suffix_append as _)).isInfix

end

/-! ## The octet of a slash -/

namespace Utf8

theorem slash_mem_iff_of_decode? {bytes : List UInt8} {cs : List Char} (h : decode? bytes = some cs) :
    0x2F ∈ bytes ↔ '/' ∈ cs := by
  rw [decode?_eq_some_iff_eq_encode.1 h]
  exact mem_encode_iff (d := '/') (by decide)

theorem slash_mem_encodeChar_iff {c : Char} : 0x2F ∈ String.utf8EncodeChar c ↔ c = '/' :=
  mem_encodeChar_iff (d := '/') (by decide)

/-- A slash divides a text where its octet divides the octets. -/
theorem exists_of_encode_eq_slash {cs : List Char} {bytes bytes' : List UInt8}
    (h : encode cs = bytes ++ 0x2F :: bytes') :
    ∃ before after, cs = before ++ '/' :: after ∧ bytes = encode before ∧ bytes' = encode after :=
  exists_of_encode_eq_append (d := '/') (by decide) h

end Utf8

/-! ## Escaped slashes -/

namespace Percent

variable {cs cs' : List Char}

/-- Somewhere in the text there is the escape of a slash. -/
def HasEncodedSlash (cs : List Char) : Prop :=
  ['%', '2', 'F'] <:+: cs ∨ ['%', '2', 'f'] <:+: cs

instance (cs : List Char) : Decidable (HasEncodedSlash cs) :=
  inferInstanceAs (Decidable (_ ∨ _))

theorem octet?_eq_slash_iff {high low : Char} :
    octet? high low = some 0x2F ↔ high = '2' ∧ (low = 'F' ∨ low = 'f') := by
  have hchar (a b : Char) : a = b ↔ a.toNat = b.toNat := Char.toNat_inj.symm
  simp only [hchar, Char.reduceToNat]
  unfold octet?
  split
  · rename_i h l hhigh hlow
    rw [hexDigit?_eq_some_iff] at hhigh hlow
    rw [Option.some.injEq, UInt8.ofNat_eq_iff_mod_eq_toNat]
    change _ = 47 ↔ _
    omega
  · rename_i hdigits
    refine iff_of_false nofun fun hchars => ?_
    exact hdigits 2 15 (hexDigit?_eq_some_iff.2 (by omega)) (hexDigit?_eq_some_iff.2 (by omega))

theorem hasEncodedSlash_cons_iff {c : Char} :
    HasEncodedSlash (c :: cs) ↔
      (∃ high low rest, c :: cs = '%' :: high :: low :: rest ∧ octet? high low = some 0x2F) ∨
        HasEncodedSlash cs := by
  have hprefix (low : Char) : ['%', '2', low] <+: c :: cs ↔ ∃ rest, c :: cs = '%' :: '2' :: low :: rest :=
    exists_congr fun _ => eq_comm
  unfold HasEncodedSlash
  rw [List.infix_cons_iff, List.infix_cons_iff, or_or_or_comm, hprefix, hprefix]
  refine or_congr_left ⟨?_, ?_⟩
  · rintro (⟨rest, h⟩ | ⟨rest, h⟩)
    · exact ⟨'2', 'F', rest, h, octet?_eq_slash_iff.2 ⟨rfl, .inl rfl⟩⟩
    · exact ⟨'2', 'f', rest, h, octet?_eq_slash_iff.2 ⟨rfl, .inr rfl⟩⟩
  · rintro ⟨high, low, rest, h, hslash⟩
    obtain ⟨rfl, rfl | rfl⟩ := octet?_eq_slash_iff.1 hslash
    · exact .inl ⟨rest, h⟩
    · exact .inr ⟨rest, h⟩

theorem hasEncodedSlash_cons_of_ne {c : Char} (hc : c ≠ '%') :
    HasEncodedSlash (c :: cs) ↔ HasEncodedSlash cs := by
  rw [hasEncodedSlash_cons_iff]
  refine or_iff_right ?_
  rintro ⟨high, low, rest, h, -⟩
  exact hc (List.cons.inj h).1

theorem hasEncodedSlash_append_cons_iff {c : Char} (hc : c ∉ ['%', '2', 'F', 'f'])
    {before after : List Char} : HasEncodedSlash (before ++ c :: after) ↔
      HasEncodedSlash before ∨ HasEncodedSlash after := by
  unfold HasEncodedSlash
  rw [infix_append_cons_iff (by grind), infix_append_cons_iff (by grind), or_or_or_comm]

/-- The octet of a slash comes of a slash or of an escape. -/
theorem slash_mem_octets_iff : 0x2F ∈ octets cs ↔ '/' ∈ cs ∨ HasEncodedSlash cs := by
  induction cs using octets.induct with
  | case1 => exact iff_of_false List.not_mem_nil (by decide)
  | case2 high low rest b hb ih =>
    have hhigh : ∀ c, hexDigit? c = none → high ≠ c := by
      rintro _ hc rfl
      cases hb.symm.trans (octet?_of_hexDigit?_left hc)
    have hlow : ∀ c, hexDigit? c = none → low ≠ c := by
      rintro _ hc rfl
      cases hb.symm.trans (octet?_of_hexDigit?_right hc)
    have hslash : HasEncodedSlash ('%' :: high :: low :: rest) ↔ 0x2F = b ∨ HasEncodedSlash rest := by
      rw [hasEncodedSlash_cons_iff, hasEncodedSlash_cons_of_ne (hhigh '%' rfl),
        hasEncodedSlash_cons_of_ne (hlow '%' rfl)]
      refine or_congr_left ⟨?_, fun h => ⟨high, low, rest, rfl, h ▸ hb⟩⟩
      rintro ⟨_, _, _, ⟨⟩, h⟩
      exact (Option.some.inj (hb.symm.trans h)).symm
    have hmem : '/' ∈ '%' :: high :: low :: rest ↔ '/' ∈ rest := by
      simp [(hhigh '/' rfl).symm, (hlow '/' rfl).symm]
    rw [octets, hb, List.mem_cons, ih, hslash, hmem, or_left_comm]
  | case3 high low rest hb ih =>
    have hslash : HasEncodedSlash ('%' :: high :: low :: rest) ↔ HasEncodedSlash (high :: low :: rest) := by
      rw [hasEncodedSlash_cons_iff]
      refine or_iff_right ?_
      rintro ⟨_, _, _, ⟨⟩, h⟩
      cases hb.symm.trans h
    rw [octets, hb, List.mem_cons, ih, hslash, List.mem_cons]
    simp
  | case4 c rest h ih =>
    have hslash : HasEncodedSlash (c :: rest) ↔ HasEncodedSlash rest := by
      rw [hasEncodedSlash_cons_iff]
      refine or_iff_right ?_
      rintro ⟨high, low, more, heq, -⟩
      obtain ⟨hc, hrest⟩ := List.cons.inj heq
      exact h high low more hc hrest
    rw [octets_cons fun hc high low more hrest => (h high low more hc hrest).elim, List.mem_append,
      Utf8.slash_mem_encodeChar_iff, ih, hslash, List.mem_cons, or_assoc, @eq_comm _ c]

/-- The first octet is that of a slash only where there is a slash, or an escape of one. -/
theorem exists_of_octets_cons {c : Char} (hc : c ≠ '/') (hencoded : ¬ HasEncodedSlash (c :: cs)) :
    ∃ b more, octets (c :: cs) = b :: more ∧ b ≠ 0x2F := by
  by_cases hescape : ∃ high low rest b, c :: cs = '%' :: high :: low :: rest ∧ octet? high low = some b
  · obtain ⟨high, low, rest, b, heq, hb⟩ := hescape
    refine ⟨b, octets rest, ?_, ?_⟩
    · rw [heq, octets, hb]
    · rintro rfl
      exact hencoded (hasEncodedSlash_cons_iff.2 (.inl ⟨high, low, rest, heq, hb⟩))
  · have hoctets : octets (c :: cs) = String.utf8EncodeChar c ++ octets cs := by
      refine octets_cons fun hpercent high low rest hcs => ?_
      rw [Option.eq_none_iff_forall_ne_some]
      intro b hb
      exact hescape ⟨high, low, rest, b, by rw [hpercent, hcs], hb⟩
    rw [hoctets]
    cases hchar : String.utf8EncodeChar c with
    | nil => exact absurd hchar String.utf8EncodeChar_ne_nil
    | cons b more =>
      refine ⟨b, more ++ octets cs, rfl, ?_⟩
      rintro rfl
      exact hc (Utf8.slash_mem_encodeChar_iff.1 (hchar ▸ List.mem_cons_self))

/-- A text that can be decoded stands for one that has a slash if it has one itself, or an escape of
one. -/
theorem slash_mem_iff_of_decode? (h : decode? cs = some cs') :
    '/' ∈ cs' ↔ '/' ∈ cs ∨ HasEncodedSlash cs := by
  rw [← slash_mem_octets_iff, Utf8.slash_mem_iff_of_decode? h]

end Percent

end ApiShape.Text
