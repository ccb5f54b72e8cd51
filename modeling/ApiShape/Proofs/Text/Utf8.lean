import ApiShape.Text.Utf8

/-!
# Reading UTF-8 back

The octets of a character are read back as that character, whatever follows them. Octets that are
well formed are read in the same way before others as they are on their own.
-/

namespace ApiShape.Text.Utf8

variable {p : Pending} {b : UInt8} {rest : List UInt8}

/-! ## Octets that carry on a character -/

theorem units_last {bits low high : Nat} (hlow : low ≤ b.toNat) (hhigh : b.toNat ≤ high) :
    units (some ⟨bits, 1, low, high⟩) (b :: rest) =
      some (Char.ofNat (bits * 64 + (b.toNat - 0x80))) :: units none rest := by
  rw [units, if_pos ⟨hlow, hhigh⟩]
  rfl

theorem units_more {bits owed low high : Nat} (hlow : low ≤ b.toNat) (hhigh : b.toNat ≤ high) :
    units (some ⟨bits, owed + 2, low, high⟩) (b :: rest) =
      units (some ⟨bits * 64 + (b.toNat - 0x80), owed + 1, 0x80, 0xBF⟩) rest := by
  rw [units, if_pos ⟨hlow, hhigh⟩]
  dsimp only
  rw [if_neg (by omega)]
  rfl

theorem units_lead (hb : 0x80 ≤ b.toNat) (hp : Pending.ofLead? b.toNat = some p) :
    units none (b :: rest) = units (some p) rest := by
  rw [units]
  unfold start
  rw [if_neg (by omega), hp]

/-! ## The octets that begin a character -/

variable {v : Nat}

theorem ofLead?_two (hlow : 0x80 ≤ v) (hhigh : v ≤ 0x7FF) :
    Pending.ofLead? (v / 64 + 0xC0) = some ⟨v / 64, 1, 0x80, 0xBF⟩ := by
  unfold Pending.ofLead?
  rw [if_pos (by omega), Nat.add_sub_cancel]

/-- The second of three octets is in the range that the first leaves, which excludes longer forms of
what has two octets and the halves of surrogate pairs. -/
theorem ofLead?_three (hlow : 0x800 ≤ v) (hhigh : v ≤ 0xFFFF) (hv : v < 0xD800 ∨ 0xDFFF < v) :
    ∃ low high, Pending.ofLead? (v / 4096 + 0xE0) = some ⟨v / 4096, 2, low, high⟩ ∧
      low ≤ v / 64 % 64 + 0x80 ∧ v / 64 % 64 + 0x80 ≤ high := by
  unfold Pending.ofLead?
  rw [if_neg (by omega)]
  by_cases h0 : v / 4096 = 0
  · rw [h0]
    exact ⟨0xA0, 0xBF, rfl, by omega, by omega⟩
  by_cases hD : v / 4096 = 0xD
  · rw [hD]
    exact ⟨0x80, 0x9F, rfl, by omega, by omega⟩
  rw [if_neg (by omega), if_neg (by omega), if_pos (by omega), Nat.add_sub_cancel]
  exact ⟨0x80, 0xBF, rfl, by omega, by omega⟩

/-- The second of four octets excludes longer forms of what has three, and what is too large. -/
theorem ofLead?_four (hlow : 0x10000 ≤ v) (hhigh : v < 0x110000) :
    ∃ low high, Pending.ofLead? (v / 262144 + 0xF0) = some ⟨v / 262144, 3, low, high⟩ ∧
      low ≤ v / 4096 % 64 + 0x80 ∧ v / 4096 % 64 + 0x80 ≤ high := by
  unfold Pending.ofLead?
  rw [if_neg (by omega), if_neg (by omega), if_neg (by omega), if_neg (by omega)]
  by_cases h0 : v / 262144 = 0
  · rw [h0]
    exact ⟨0x90, 0xBF, rfl, by omega, by omega⟩
  by_cases h4 : v / 262144 = 4
  · rw [h4]
    exact ⟨0x80, 0x8F, rfl, by omega, by omega⟩
  rw [if_neg (by omega), if_pos (by omega), Nat.add_sub_cancel]
  exact ⟨0x80, 0xBF, rfl, by omega, by omega⟩

/-! ## The octets of a character -/

theorem toNat_ofNat_of_lt {n : Nat} (h : n < 256) : (UInt8.ofNat n).toNat = n := by
  rw [UInt8.toNat_ofNat']
  exact Nat.mod_eq_of_lt h

theorem units_one (hhigh : v ≤ 0x7F) :
    units none (.ofNat v :: rest) = some (Char.ofNat v) :: units none rest := by
  have hb : (UInt8.ofNat v).toNat = v := toNat_ofNat_of_lt (by omega)
  rw [units]
  unfold start
  rw [if_pos (by omega), hb]

theorem units_two (hlow : 0x80 ≤ v) (hhigh : v ≤ 0x7FF) :
    units none (.ofNat (v / 64 % 32 + 0xC0) :: .ofNat (v % 64 + 0x80) :: rest) =
      some (Char.ofNat v) :: units none rest := by
  have hlead : (UInt8.ofNat (v / 64 % 32 + 0xC0)).toNat = v / 64 + 0xC0 := by
    rw [toNat_ofNat_of_lt (by omega)]
    omega
  have hlast : (UInt8.ofNat (v % 64 + 0x80)).toNat = v % 64 + 0x80 := toNat_ofNat_of_lt (by omega)
  have hp := ofLead?_two hlow hhigh
  rw [← hlead] at hp
  have hv : v / 64 * 64 + (v % 64 + 0x80 - 0x80) = v := by omega
  rw [units_lead (by omega) hp, units_last (by omega) (by omega), hlast, hv]

theorem units_three (hlow : 0x800 ≤ v) (hhigh : v ≤ 0xFFFF) (hchar : v < 0xD800 ∨ 0xDFFF < v) :
    units none (.ofNat (v / 4096 % 16 + 0xE0) :: .ofNat (v / 64 % 64 + 0x80) ::
      .ofNat (v % 64 + 0x80) :: rest) = some (Char.ofNat v) :: units none rest := by
  have hlead : (UInt8.ofNat (v / 4096 % 16 + 0xE0)).toNat = v / 4096 + 0xE0 := by
    rw [toNat_ofNat_of_lt (by omega)]
    omega
  have hsecond : (UInt8.ofNat (v / 64 % 64 + 0x80)).toNat = v / 64 % 64 + 0x80 :=
    toNat_ofNat_of_lt (by omega)
  have hlast : (UInt8.ofNat (v % 64 + 0x80)).toNat = v % 64 + 0x80 := toNat_ofNat_of_lt (by omega)
  obtain ⟨low, high, hp, hl, hh⟩ := ofLead?_three hlow hhigh hchar
  rw [← hlead] at hp
  have hv : (v / 4096 * 64 + (v / 64 % 64 + 0x80 - 0x80)) * 64 + (v % 64 + 0x80 - 0x80) = v := by
    omega
  rw [units_lead (by omega) hp, units_more (by omega) (by omega), hsecond,
    units_last (by omega) (by omega), hlast, hv]

theorem units_four (hlow : 0x10000 ≤ v) (hhigh : v < 0x110000) :
    units none (.ofNat (v / 262144 % 8 + 0xF0) :: .ofNat (v / 4096 % 64 + 0x80) ::
      .ofNat (v / 64 % 64 + 0x80) :: .ofNat (v % 64 + 0x80) :: rest) =
      some (Char.ofNat v) :: units none rest := by
  have hlead : (UInt8.ofNat (v / 262144 % 8 + 0xF0)).toNat = v / 262144 + 0xF0 := by
    rw [toNat_ofNat_of_lt (by omega)]
    omega
  have hsecond : (UInt8.ofNat (v / 4096 % 64 + 0x80)).toNat = v / 4096 % 64 + 0x80 :=
    toNat_ofNat_of_lt (by omega)
  have hthird : (UInt8.ofNat (v / 64 % 64 + 0x80)).toNat = v / 64 % 64 + 0x80 :=
    toNat_ofNat_of_lt (by omega)
  have hlast : (UInt8.ofNat (v % 64 + 0x80)).toNat = v % 64 + 0x80 := toNat_ofNat_of_lt (by omega)
  obtain ⟨low, high, hp, hl, hh⟩ := ofLead?_four hlow hhigh
  rw [← hlead] at hp
  have hv : ((v / 262144 * 64 + (v / 4096 % 64 + 0x80 - 0x80)) * 64 +
      (v / 64 % 64 + 0x80 - 0x80)) * 64 + (v % 64 + 0x80 - 0x80) = v := by
    omega
  rw [units_lead (by omega) hp, units_more (by omega) (by omega), hsecond,
    units_more (by omega) (by omega), hthird,
    units_last (by omega) (by omega), hlast, hv]

/-- The octets of a character are read back as the character. -/
theorem units_encodeChar (c : Char) (rest : List UInt8) :
    units none (String.utf8EncodeChar c ++ rest) = some c :: units none rest := by
  have hvalid : c.val.toNat < 0xD800 ∨ 0xDFFF < c.val.toNat ∧ c.val.toNat < 0x110000 := c.valid
  have hchar : some (Char.ofNat c.val.toNat) :: units none rest = some c :: units none rest :=
    congrArg (some · :: _) (Char.ofNat_toNat c)
  rw [← hchar]
  unfold String.utf8EncodeChar
  dsimp only
  split
  · rename_i h1
    exact units_one h1
  split
  · exact units_two (by omega) (by omega)
  split
  · exact units_three (by omega) (by omega) (by omega)
  · exact units_four (by omega) (by omega)

/-! ## Octets before others -/

/-- Well-formed octets are read in the same way before others. -/
theorem units_append {state : Option Pending} {bytes : List UInt8}
    (h : none ∉ units state bytes) (more : List UInt8) :
    units state (bytes ++ more) = units state bytes ++ units none more := by
  induction bytes generalizing state with
  | nil =>
    cases state with
    | none => rfl
    | some p => exact absurd (List.mem_singleton_self _) h
  | cons b bytes ih =>
    rw [List.cons_append]
    cases state with
    | none =>
      rw [units] at h
      rw [units, units]
      cases hb : start b with
      | char c =>
        rw [hb] at h
        dsimp only at h ⊢
        rw [ih fun hmem => h (List.mem_cons_of_mem _ hmem), List.cons_append]
      | pending p =>
        rw [hb] at h
        exact ih h
      | invalid =>
        rw [hb] at h
        exact absurd List.mem_cons_self h
    | some p =>
      rw [units] at h
      rw [units, units]
      by_cases hb : p.low ≤ b.toNat ∧ b.toNat ≤ p.high
      · rw [if_pos hb] at h
        rw [if_pos hb, if_pos hb]
        dsimp only at h ⊢
        by_cases howed : p.owed ≤ 1
        · rw [if_pos howed] at h
          rw [if_pos howed, if_pos howed, ih fun hmem => h (List.mem_cons_of_mem _ hmem),
            List.cons_append]
        · rw [if_neg howed] at h
          rw [if_neg howed, if_neg howed, ih h]
      · -- An octet out of range is ill formed, whatever it begins.
        rw [if_neg hb] at h
        cases hstart : start b with
        | _ =>
          rw [hstart] at h
          exact absurd List.mem_cons_self h

/-! ## Octets cut short -/

/-- The octet carries on no character: it is one of its own, begins one, or is ill formed. -/
def IsFresh (b : UInt8) : Prop :=
  b.toNat < 0x80 ∨ 0xBF < b.toNat

/-- The next octet of the character is in the range of those that carry one on. -/
def Pending.IsBounded (p : Pending) : Prop :=
  0x80 ≤ p.low ∧ p.high ≤ 0xBF

theorem isBounded_of_ofLead? {v : Nat} (h : Pending.ofLead? v = some p) : p.IsBounded := by
  have hmk : ∀ {bits owed low high : Nat}, some ⟨bits, owed, low, high⟩ = some p → 0x80 ≤ low →
      high ≤ 0xBF → p.IsBounded :=
    fun hp hlow hhigh => Option.some.inj hp ▸ ⟨hlow, hhigh⟩
  unfold Pending.ofLead? at h
  repeat' split at h
  all_goals first
    | exact hmk h (by omega) (by omega)
    | cases h

/-- An octet that begins a character is none of ASCII. -/
theorem ofLead?_of_start (h : start b = .pending p) :
    0x80 ≤ b.toNat ∧ Pending.ofLead? b.toNat = some p := by
  unfold start at h
  split at h
  · cases h
  · rename_i hb
    refine ⟨Nat.le_of_not_lt hb, ?_⟩
    cases hlead : Pending.ofLead? b.toNat with
    | none =>
      rw [hlead] at h
      cases h
    | some q =>
      rw [hlead] at h
      cases h
      rfl

theorem isBounded_of_start (h : start b = .pending p) : p.IsBounded :=
  isBounded_of_ofLead? (ofLead?_of_start h).2

/-- The octets of a character begin with a fresh one. -/
theorem exists_isFresh_encodeChar (c : Char) :
    ∃ b more, String.utf8EncodeChar c = b :: more ∧ IsFresh b := by
  have hvalid : c.val.toNat < 0xD800 ∨ 0xDFFF < c.val.toNat ∧ c.val.toNat < 0x110000 := c.valid
  unfold String.utf8EncodeChar IsFresh
  dsimp only
  split
  · refine ⟨_, _, rfl, ?_⟩
    rw [toNat_ofNat_of_lt (by omega)]
    omega
  split
  · refine ⟨_, _, rfl, ?_⟩
    rw [toNat_ofNat_of_lt (by omega)]
    omega
  split
  · refine ⟨_, _, rfl, ?_⟩
    rw [toNat_ofNat_of_lt (by omega)]
    omega
  · refine ⟨_, _, rfl, ?_⟩
    rw [toNat_ofNat_of_lt (by omega)]
    omega

/-- Octets that are ill formed stay so before a fresh octet, which carries on nothing. -/
theorem none_mem_units_append {state : Option Pending} {bytes : List UInt8} (hb : IsFresh b)
    (hstate : ∀ p ∈ state, p.IsBounded) (h : none ∈ units state bytes) :
    none ∈ units state (bytes ++ b :: rest) := by
  induction bytes generalizing state with
  | nil =>
    cases state with
    | none => cases h
    | some p =>
      obtain ⟨hlow, hhigh⟩ := hstate p rfl
      have hout : ¬(p.low ≤ b.toNat ∧ b.toNat ≤ p.high) := by
        unfold IsFresh at hb
        omega
      rw [List.nil_append, units, if_neg hout]
      split <;> exact List.mem_cons_self
  | cons b' bytes ih =>
    have hnone : ∀ q ∈ (none : Option Pending), q.IsBounded := nofun
    have hsome : ∀ q : Pending, q.IsBounded → ∀ q' ∈ some q, q'.IsBounded := by
      rintro q hq _ ⟨⟩
      exact hq
    rw [List.cons_append]
    cases state with
    | none =>
      rw [units] at h ⊢
      cases hstart : start b' with
      | char c =>
        rw [hstart] at h
        exact List.mem_cons_of_mem _ (ih hnone ((List.mem_cons.1 h).resolve_left nofun))
      | pending q =>
        rw [hstart] at h
        exact ih (hsome q (isBounded_of_start hstart)) h
      | invalid => exact List.mem_cons_self
    | some p =>
      rw [units] at h ⊢
      by_cases hin : p.low ≤ b'.toNat ∧ b'.toNat ≤ p.high
      · rw [if_pos hin] at h ⊢
        dsimp only at h ⊢
        by_cases howed : p.owed ≤ 1
        · rw [if_pos howed] at h ⊢
          exact List.mem_cons_of_mem _ (ih hnone ((List.mem_cons.1 h).resolve_left nofun))
        · rw [if_neg howed] at h ⊢
          exact ih (hsome _ ⟨Nat.le_refl _, Nat.le_refl _⟩) h
      · rw [if_neg hin]
        split <;> exact List.mem_cons_self

/-- The characters are all there. -/
theorem mapM_id_eq_some_iff {us : List (Option Char)} {cs : List Char} :
    us.mapM id = some cs ↔ us = cs.map some := by
  induction us generalizing cs with
  | nil =>
    rw [List.mapM_nil]
    cases cs <;> simp
  | cons u rest ih =>
    rw [List.mapM_cons]
    cases u with
    | none => cases cs <;> simp
    | some c =>
      change ((rest.mapM id).bind fun more => some (c :: more)) = some cs ↔ _
      rw [Option.bind_eq_some_iff]
      simp only [ih, Option.some.injEq]
      constructor
      · rintro ⟨more, rfl, rfl⟩
        rfl
      · intro h
        cases cs with
        | nil => cases h
        | cons c' more =>
          obtain ⟨hc, hrest⟩ := List.cons.inj h
          exact ⟨more, hrest, by rw [Option.some.inj hc]⟩

theorem decode?_eq_some_iff {bytes : List UInt8} {cs : List Char} :
    decode? bytes = some cs ↔ units none bytes = cs.map some :=
  mapM_id_eq_some_iff

theorem exists_eq_map_some {us : List (Option Char)} (h : none ∉ us) :
    ∃ cs : List Char, us = cs.map some := by
  induction us with
  | nil => exact ⟨[], rfl⟩
  | cons u rest ih =>
    obtain ⟨more, rfl⟩ := ih fun hmem => h (List.mem_cons_of_mem _ hmem)
    cases u with
    | none => exact absurd List.mem_cons_self h
    | some c => exact ⟨c :: more, rfl⟩

/-- Octets are well formed if no part of them is ill formed. -/
theorem isSome_decode?_iff {bytes : List UInt8} :
    (decode? bytes).isSome = true ↔ none ∉ units none bytes := by
  rw [Option.isSome_iff_exists]
  constructor
  · rintro ⟨cs, h⟩ hmem
    rw [decode?_eq_some_iff.1 h] at hmem
    obtain ⟨c, _, hc⟩ := List.mem_map.1 hmem
    cases hc
  · intro h
    obtain ⟨cs, hcs⟩ := exists_eq_map_some h
    exact ⟨cs, decode?_eq_some_iff.2 hcs⟩

/-- What is well formed before a fresh octet is so on its own. -/
theorem isSome_decode?_of_append {bytes : List UInt8} (hb : IsFresh b)
    (h : (decode? (bytes ++ b :: rest)).isSome = true) : (decode? bytes).isSome = true := by
  rw [isSome_decode?_iff] at h ⊢
  exact mt (none_mem_units_append hb nofun) h

/-- Well-formed octets before others are read as their characters. -/
theorem decodeLossy_append {bytes : List UInt8} {cs : List Char} (h : decode? bytes = some cs)
    (more : List UInt8) : decodeLossy (bytes ++ more) = cs ++ decodeLossy more := by
  have hnone : none ∉ units none bytes :=
    isSome_decode?_iff.1 (Option.isSome_iff_exists.2 ⟨cs, h⟩)
  rw [decode?_eq_some_iff] at h
  unfold decodeLossy
  rw [units_append hnone, h, List.map_append, List.map_map]
  congr 1
  exact List.map_id _

theorem decodeLossy_encodeChar (c : Char) (more : List UInt8) :
    decodeLossy (String.utf8EncodeChar c ++ more) = c :: decodeLossy more := by
  unfold decodeLossy
  rw [units_encodeChar, List.map_cons]
  rfl

end ApiShape.Text.Utf8
