import ApiShape.Proofs.Text.Utf8

/-!
# Well-formed UTF-8

What can be read is what was written: an octet sequence that is read as a text is the octets of the
text. So octets are well formed if they are those of some text, of one text only, and a character of
ASCII in that text is an octet of its own that divides what is before it from what comes after.
-/

namespace ApiShape.Text.Utf8

variable {b : UInt8} {c c' : Char} {cs : List Char} {bytes bytes' : List UInt8} {v : Nat}

/-! ## The octets of a text -/

theorem encode_cons (c : Char) (cs : List Char) :
    encode (c :: cs) = String.utf8EncodeChar c ++ encode cs :=
  List.flatMap_cons

theorem encode_append (cs cs' : List Char) : encode (cs ++ cs') = encode cs ++ encode cs' :=
  List.flatMap_append

theorem encode_eq_nil_iff : encode cs = [] ↔ cs = [] := by
  unfold encode
  cases cs with
  | nil => simp
  | cons c rest => simp [String.utf8EncodeChar_ne_nil]

theorem units_encode (cs : List Char) : units none (encode cs) = cs.map some := by
  induction cs with
  | nil => rfl
  | cons c rest ih => rw [encode_cons, units_encodeChar, ih, List.map_cons]

/-- No character's octets go on to be those of another one. -/
theorem encodeChar_append_inj
    (h : String.utf8EncodeChar c ++ bytes = String.utf8EncodeChar c' ++ bytes') :
    c = c' ∧ bytes = bytes' := by
  have hunits := congrArg (units none) h
  rw [units_encodeChar, units_encodeChar, List.cons.injEq, Option.some.injEq] at hunits
  obtain ⟨rfl, -⟩ := hunits
  exact ⟨rfl, List.append_cancel_left h⟩

/-- A text is known by its octets, from the first character on. -/
theorem exists_of_encode_append {before : List Char} (h : encode before ++ bytes = encode cs) :
    ∃ rest, cs = before ++ rest ∧ bytes = encode rest := by
  induction before generalizing cs with
  | nil => exact ⟨cs, rfl, h⟩
  | cons c before ih =>
    rw [encode_cons, List.append_assoc] at h
    cases cs with
    | nil =>
      have hnil := (List.append_eq_nil_iff.1 h).1
      exact absurd hnil String.utf8EncodeChar_ne_nil
    | cons c' rest =>
      rw [encode_cons] at h
      obtain ⟨rfl, hrest⟩ := encodeChar_append_inj h
      obtain ⟨rest, rfl, hbytes⟩ := ih hrest
      exact ⟨rest, rfl, hbytes⟩

/-! ## Octets of one character -/

/-- A code that is no half of a surrogate pair has a character. -/
theorem exists_char (h : v < 0xD800 ∨ 0xDFFF < v ∧ v < 0x110000) : ∃ c : Char, c.val.toNat = v := by
  refine ⟨Char.ofNat v, ?_⟩
  rw [Char.ofNat, dif_pos h]
  rfl

theorem ofNat_eq_of_toNat (h : b.toNat = v) : UInt8.ofNat v = b :=
  h ▸ UInt8.ofNat_toNat

theorem exists_encodeChar_one (hb : b.toNat ≤ 0x7F) : ∃ c, String.utf8EncodeChar c = [b] := by
  obtain ⟨c, hc⟩ := exists_char (v := b.toNat) (by omega)
  refine ⟨c, ?_⟩
  unfold String.utf8EncodeChar
  dsimp only
  rw [hc, if_pos hb, ofNat_eq_of_toNat rfl]

section

variable {b₁ b₂ b₃ b₄ : UInt8}

/-- A first octet of two, and any second one. -/
theorem exists_encodeChar_two (h₁ : 0xC2 ≤ b₁.toNat ∧ b₁.toNat ≤ 0xDF)
    (h₂ : 0x80 ≤ b₂.toNat ∧ b₂.toNat ≤ 0xBF) : ∃ c, String.utf8EncodeChar c = [b₁, b₂] := by
  obtain ⟨c, hc⟩ := exists_char (v := (b₁.toNat - 0xC0) * 64 + (b₂.toNat - 0x80)) (by omega)
  refine ⟨c, ?_⟩
  unfold String.utf8EncodeChar
  dsimp only
  rw [hc, if_neg (by omega), if_pos (by omega), ofNat_eq_of_toNat (b := b₁) (by omega),
    ofNat_eq_of_toNat (b := b₂) (by omega)]

/-- A first octet of three, and a second one that makes neither what has two octets nor half of a
surrogate pair. -/
theorem exists_encodeChar_three (h₁ : 0xE0 ≤ b₁.toNat ∧ b₁.toNat ≤ 0xEF)
    (h₂ : 0x80 ≤ b₂.toNat ∧ b₂.toNat ≤ 0xBF) (hlow : b₁.toNat = 0xE0 → 0xA0 ≤ b₂.toNat)
    (hhigh : b₁.toNat = 0xED → b₂.toNat ≤ 0x9F) (h₃ : 0x80 ≤ b₃.toNat ∧ b₃.toNat ≤ 0xBF) :
    ∃ c, String.utf8EncodeChar c = [b₁, b₂, b₃] := by
  obtain ⟨c, hc⟩ := exists_char
    (v := ((b₁.toNat - 0xE0) * 64 + (b₂.toNat - 0x80)) * 64 + (b₃.toNat - 0x80)) (by omega)
  refine ⟨c, ?_⟩
  unfold String.utf8EncodeChar
  dsimp only
  rw [hc, if_neg (by omega), if_neg (by omega), if_pos (by omega),
    ofNat_eq_of_toNat (b := b₁) (by omega), ofNat_eq_of_toNat (b := b₂) (by omega),
    ofNat_eq_of_toNat (b := b₃) (by omega)]

/-- A first octet of four, and a second one that makes neither what has three octets nor what is too
large. -/
theorem exists_encodeChar_four (h₁ : 0xF0 ≤ b₁.toNat ∧ b₁.toNat ≤ 0xF4)
    (h₂ : 0x80 ≤ b₂.toNat ∧ b₂.toNat ≤ 0xBF) (hlow : b₁.toNat = 0xF0 → 0x90 ≤ b₂.toNat)
    (hhigh : b₁.toNat = 0xF4 → b₂.toNat ≤ 0x8F) (h₃ : 0x80 ≤ b₃.toNat ∧ b₃.toNat ≤ 0xBF)
    (h₄ : 0x80 ≤ b₄.toNat ∧ b₄.toNat ≤ 0xBF) :
    ∃ c, String.utf8EncodeChar c = [b₁, b₂, b₃, b₄] := by
  obtain ⟨c, hc⟩ := exists_char (v := (((b₁.toNat - 0xF0) * 64 + (b₂.toNat - 0x80)) * 64 +
    (b₃.toNat - 0x80)) * 64 + (b₄.toNat - 0x80)) (by omega)
  refine ⟨c, ?_⟩
  unfold String.utf8EncodeChar
  dsimp only
  rw [hc, if_neg (by omega), if_neg (by omega), if_neg (by omega),
    ofNat_eq_of_toNat (b := b₁) (by omega), ofNat_eq_of_toNat (b := b₂) (by omega),
    ofNat_eq_of_toNat (b := b₃) (by omega), ofNat_eq_of_toNat (b := b₄) (by omega)]

end

/-! ## Octets that are read -/

/-- A character that is begun is carried on by an octet in its range, unless it is ill formed. -/
theorem exists_of_units_pending {bits owed low high : Nat}
    (h : none ∉ units (some ⟨bits, owed, low, high⟩) bytes) :
    ∃ b rest, bytes = b :: rest ∧ low ≤ b.toNat ∧ b.toNat ≤ high := by
  cases bytes with
  | nil => exact absurd (List.mem_singleton_self _) h
  | cons b rest =>
    refine ⟨b, rest, rfl, ?_⟩
    by_cases hin : low ≤ b.toNat ∧ b.toNat ≤ high
    · exact hin
    · rw [units, if_neg hin] at h
      exfalso
      apply h
      split <;> exact List.mem_cons_self

/-- A first octet says how many octets are owed, and bounds the next one where it has to. -/
theorem cases_of_ofLead? {p : Pending} (h : Pending.ofLead? v = some p) :
    (0xC2 ≤ v ∧ v ≤ 0xDF ∧ p.owed = 1) ∨
    (0xE0 ≤ v ∧ v ≤ 0xEF ∧ p.owed = 2 ∧ (v = 0xE0 → 0xA0 ≤ p.low) ∧ (v = 0xED → p.high ≤ 0x9F)) ∨
    (0xF0 ≤ v ∧ v ≤ 0xF4 ∧ p.owed = 3 ∧ (v = 0xF0 → 0x90 ≤ p.low) ∧ (v = 0xF4 → p.high ≤ 0x8F)) := by
  unfold Pending.ofLead? at h
  repeat' split at h
  all_goals first
    | rw [← Option.some.inj h]
      dsimp only
      omega
    | cases h

/-- Octets of which no part is ill formed begin with those of a character. -/
theorem exists_encodeChar_append (h : none ∉ units none (b :: bytes)) :
    ∃ c rest, b :: bytes = String.utf8EncodeChar c ++ rest := by
  rw [units] at h
  cases hstart : start b with
  | invalid =>
    rw [hstart] at h
    exact absurd List.mem_cons_self h
  | char c =>
    have hb : b.toNat ≤ 0x7F := by
      unfold start at hstart
      split at hstart
      · omega
      · split at hstart <;> cases hstart
    obtain ⟨c', hc'⟩ := exists_encodeChar_one hb
    exact ⟨c', bytes, by rw [hc']; rfl⟩
  | pending p =>
    rw [hstart] at h
    have hlead := cases_of_ofLead? (ofLead?_of_start hstart).2
    have hbounded := isBounded_of_start hstart
    -- Every octet that is owed is there and in its range, as nothing is ill formed.
    obtain ⟨bits, owed, low, high⟩ := p
    dsimp only at h hlead
    obtain ⟨b₂, rest, rfl, hlow, hhigh⟩ := exists_of_units_pending h
    have h₂ : 0x80 ≤ b₂.toNat ∧ b₂.toNat ≤ 0xBF :=
      ⟨Nat.le_trans hbounded.1 hlow, Nat.le_trans hhigh hbounded.2⟩
    rcases hlead with ⟨hmin, hmax, rfl⟩ | ⟨hmin, hmax, rfl, hmore, hless⟩ |
      ⟨hmin, hmax, rfl, hmore, hless⟩
    · obtain ⟨c, hc⟩ := exists_encodeChar_two ⟨hmin, hmax⟩ h₂
      exact ⟨c, rest, by rw [hc]; rfl⟩
    · rw [units_more hlow hhigh] at h
      obtain ⟨b₃, rest, rfl, h₃⟩ := exists_of_units_pending h
      obtain ⟨c, hc⟩ := exists_encodeChar_three ⟨hmin, hmax⟩ h₂
        (fun hb => Nat.le_trans (hmore hb) hlow) (fun hb => Nat.le_trans hhigh (hless hb)) h₃
      exact ⟨c, rest, by rw [hc]; rfl⟩
    · rw [units_more hlow hhigh] at h
      obtain ⟨b₃, rest, rfl, h₃⟩ := exists_of_units_pending h
      rw [units_more h₃.1 h₃.2] at h
      obtain ⟨b₄, rest, rfl, h₄⟩ := exists_of_units_pending h
      obtain ⟨c, hc⟩ := exists_encodeChar_four ⟨hmin, hmax⟩ h₂
        (fun hb => Nat.le_trans (hmore hb) hlow) (fun hb => Nat.le_trans hhigh (hless hb)) h₃ h₄
      exact ⟨c, rest, by rw [hc]; rfl⟩

/-- Octets of which no part is ill formed are those of a text. -/
theorem exists_eq_encode (h : none ∉ units none bytes) : ∃ cs, bytes = encode cs := by
  -- One character takes several octets, so the induction is on how many octets there are.
  induction hlength : bytes.length using Nat.strongRecOn generalizing bytes with
  | ind n ih =>
    cases bytes with
    | nil => exact ⟨[], rfl⟩
    | cons b bytes =>
      obtain ⟨c, rest, heq⟩ := exists_encodeChar_append h
      have hless : rest.length < n := by
        have hpos := List.length_pos_iff.2 (String.utf8EncodeChar_ne_nil (c := c))
        rw [heq, List.length_append] at hlength
        omega
      rw [heq, units_encodeChar, List.mem_cons, not_or] at h
      obtain ⟨cs, rfl⟩ := ih rest.length hless h.2 rfl
      exact ⟨c :: cs, by rw [heq, encode_cons]⟩

/-- Octets are read as a text exactly if they are the octets of the text. -/
theorem decode?_eq_some_iff_eq_encode : decode? bytes = some cs ↔ bytes = encode cs := by
  rw [decode?_eq_some_iff]
  constructor
  · intro h
    have hnone : none ∉ units none bytes := by
      rw [h]
      simp
    obtain ⟨cs', rfl⟩ := exists_eq_encode hnone
    rw [units_encode] at h
    rw [(List.map_inj_right fun _ _ hc => Option.some.inj hc).1 h]
  · rintro rfl
    exact units_encode cs

/-! ## Characters of ASCII -/

theorem encodeChar_ascii (hc : c.toNat ≤ 0x7F) : String.utf8EncodeChar c = [.ofNat c.toNat] := by
  unfold String.utf8EncodeChar
  exact if_pos hc

/-- Beyond ASCII every octet has the first bit. -/
theorem le_toNat_of_mem_encodeChar (hc : 0x7F < c.toNat) :
    ∀ b ∈ String.utf8EncodeChar c, 0x80 ≤ b.toNat := by
  have hlong : ¬ c.val.toNat ≤ 0x7F := Nat.not_le.2 hc
  unfold String.utf8EncodeChar
  dsimp only
  rw [if_neg hlong]
  split
  · simp only [List.mem_cons, List.not_mem_nil, or_false, forall_eq_or_imp, forall_eq,
      UInt8.toNat_ofNat']
    omega
  split
  · simp only [List.mem_cons, List.not_mem_nil, or_false, forall_eq_or_imp, forall_eq,
      UInt8.toNat_ofNat']
    omega
  · simp only [List.mem_cons, List.not_mem_nil, or_false, forall_eq_or_imp, forall_eq,
      UInt8.toNat_ofNat']
    omega

/-- The octet of a character of ASCII is an octet of that character alone. -/
theorem mem_encodeChar_iff {d : Char} (hd : d.toNat ≤ 0x7F) :
    UInt8.ofNat d.toNat ∈ String.utf8EncodeChar c ↔ c = d := by
  constructor
  · intro h
    by_cases hc : c.toNat ≤ 0x7F
    · rw [encodeChar_ascii hc, List.mem_singleton] at h
      have htoNat := congrArg UInt8.toNat h
      rw [toNat_ofNat_of_lt (by omega), toNat_ofNat_of_lt (by omega)] at htoNat
      exact Char.toNat_inj.1 htoNat.symm
    · have hhigh := le_toNat_of_mem_encodeChar (Nat.not_le.1 hc) _ h
      rw [toNat_ofNat_of_lt (by omega)] at hhigh
      omega
  · rintro rfl
    rw [encodeChar_ascii hd]
    exact List.mem_singleton_self _

theorem mem_encode_iff {d : Char} (hd : d.toNat ≤ 0x7F) :
    UInt8.ofNat d.toNat ∈ encode cs ↔ d ∈ cs := by
  unfold encode
  simp only [List.mem_flatMap, mem_encodeChar_iff hd, exists_eq_right]

/-- Where there is the octet of a character of ASCII, the text has that character. -/
theorem exists_of_encode_eq_append {d : Char} (hd : d.toNat ≤ 0x7F)
    (h : encode cs = bytes ++ .ofNat d.toNat :: bytes') :
    ∃ before after, cs = before ++ d :: after ∧ bytes = encode before ∧ bytes' = encode after := by
  induction cs generalizing bytes with
  | nil => exact absurd h.symm (List.append_ne_nil_of_right_ne_nil _ (List.cons_ne_nil _ _))
  | cons c rest ih =>
    rw [encode_cons, List.append_eq_append_iff] at h
    have hlater : ∀ more, bytes = String.utf8EncodeChar c ++ more →
        encode rest = more ++ .ofNat d.toNat :: bytes' →
        ∃ before after, c :: rest = before ++ d :: after ∧ bytes = encode before ∧
          bytes' = encode after := by
      intro more hbytes hrest
      obtain ⟨before, after, rfl, rfl, hafter⟩ := ih hrest
      exact ⟨c :: before, after, rfl, by rw [hbytes, encode_cons], hafter⟩
    rcases h with ⟨more, hbytes, hrest⟩ | ⟨last, hc, hlast⟩
    · exact hlater more hbytes hrest
    · cases last with
      | nil => exact hlater [] (by rw [hc, List.append_nil, List.append_nil]) hlast.symm
      | cons b last =>
        -- The octet is one of the first character, so it is all that this character has.
        obtain ⟨rfl, hafter⟩ := List.cons.inj hlast
        have hmem : UInt8.ofNat d.toNat ∈ String.utf8EncodeChar c := by
          rw [hc]
          simp
        rw [mem_encodeChar_iff hd] at hmem
        subst hmem
        rw [encodeChar_ascii hd] at hc
        obtain ⟨rfl, hnil⟩ : bytes = [] ∧ last = [] := by
          have hlength := congrArg List.length hc
          simp only [List.length_append, List.length_cons, List.length_nil] at hlength
          exact ⟨List.length_eq_zero_iff.1 (by omega), List.length_eq_zero_iff.1 (by omega)⟩
        rw [hnil] at hafter
        exact ⟨[], rest, rfl, rfl, hafter⟩

end ApiShape.Text.Utf8
