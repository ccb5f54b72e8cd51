import ApiShape.Proofs.MediaType
import ApiShape.Proofs.Text.Blank

/-!
# Preferences and kinds

Two rules sort media types: their rank among the default preferences, which is the first pattern that
matches, and the kind of encoding that they name. On ASCII texts the two agree.
-/

namespace ApiShape

namespace Text

variable {cs : List Char}

/-- All characters of the text are ASCII characters. -/
def IsAscii (cs : List Char) : Prop :=
  ∀ c ∈ cs, c.toNat < 0x80

instance (cs : List Char) : Decidable (IsAscii cs) :=
  List.decidableBAll _ cs

/-- All characters of the text are ASCII characters, and none is a capital letter. -/
def IsLowered (cs : List Char) : Prop :=
  ∀ c ∈ cs, c.toNat < 0x80 ∧ c.toLower = c

instance (cs : List Char) : Decidable (IsLowered cs) :=
  List.decidableBAll _ cs

theorem toNat_toLower_lt : ∀ c : Char, c.toNat < 0x80 → c.toLower.toNat < 0x80 :=
  forall_char_of_toLower (by decide) fun _ h hc => by rwa [h]

theorem IsAscii.isLowered_map_toLower (h : IsAscii cs) : IsLowered (cs.map Char.toLower) := by
  intro c hc
  obtain ⟨c', hc', rfl⟩ := List.mem_map.1 hc
  exact ⟨toNat_toLower_lt c' (h c' hc'), toLower_toLower c'⟩

theorem IsAscii.trim (h : IsAscii cs) : IsAscii (trim cs) := by
  obtain ⟨lead, trail, hcs, -, -⟩ := exists_eq_trim cs
  intro c hc
  refine h c ?_
  rw [hcs]
  exact List.mem_append_right _ (List.mem_append_left _ hc)

theorem IsLowered.caseFold (h : IsLowered cs) : caseFold cs = cs := by
  have hself : ∀ c ∈ cs, foldChar c = [c] := by
    intro c hc
    obtain ⟨hascii, hlower⟩ := h c hc
    rw [foldChar, if_pos hascii, hlower]
  rw [Text.caseFold, List.flatMap_congr hself, List.flatMap_singleton']

end Text

namespace MediaType

open Text

variable {name pattern cs : List Char}

/-! ## Patterns on ASCII texts -/

theorem sameFolded_iff (h : IsLowered cs) (h' : IsLowered name) :
    sameFolded cs name = true ↔ cs = name := by
  rw [sameFolded, h.caseFold, h'.caseFold, beq_iff_eq]

theorem byteSize_of_isLowered (h : IsLowered cs) : byteSize cs = cs.length := by
  induction cs with
  | nil => rfl
  | cons c rest ih =>
    have hrest : byteSize rest = rest.length := ih fun c' hc' => h c' (List.mem_cons_of_mem _ hc')
    have hc : c.utf8Size = 1 :=
      Char.utf8Size_eq_one_iff.2 (UInt32.le_iff_toNat_le.2 (Nat.le_of_lt_succ (h c List.mem_cons_self).1))
    unfold byteSize at hrest ⊢
    rw [List.map_cons, List.foldr_cons, hrest, hc, List.length_cons]
    exact Nat.add_comm _ _

/-- Every character of an ASCII text is one byte. -/
theorem lastBytes?_of_isLowered {size : Nat} (h : IsLowered cs) (hsize : size ≤ cs.length) :
    lastBytes? size cs = some (cs.drop (cs.length - size)) := by
  induction cs with
  | nil =>
    obtain rfl := Nat.le_zero.1 hsize
    rfl
  | cons c rest ih =>
    rw [lastBytes?, byteSize_of_isLowered h]
    split
    · rename_i heq
      rw [heq, Nat.sub_self, List.drop_zero]
    · rename_i hne
      rw [List.length_cons] at hne hsize
      rw [ih (fun c' hc' => h c' (List.mem_cons_of_mem _ hc')) (by omega), List.length_cons,
        show rest.length + 1 - size = rest.length - size + 1 by omega, List.drop_succ_cons]

/-- A pattern that starts with an asterisk asks for an ending, and for something before it. -/
theorem patternMatches_ending_iff (hname : IsLowered name) (ending : List Char)
    (hending : IsLowered ending) (hany : ending ≠ ['/', '*']) :
    patternMatches ('*' :: ending) name = true ↔ ending.length < name.length ∧ ending <:+ name := by
  unfold patternMatches
  split
  · rename_i heq
    exact absurd (List.cons.inj heq).2 hany
  · rename_i heq
    obtain rfl := (List.cons.inj heq).2
    rw [Bool.and_eq_true, decide_eq_true_eq, byteSize_of_isLowered hending,
      byteSize_of_isLowered hname]
    refine and_congr_right fun hlength => ?_
    have hdrop : IsLowered (name.drop (name.length - ending.length)) := fun c hc =>
      hname c (List.mem_of_mem_drop hc)
    rw [lastBytes?_of_isLowered hname (Nat.le_of_lt hlength), Option.any_some,
      sameFolded_iff hdrop hending, List.suffix_iff_eq_drop, eq_comm]
  · rename_i h
    exact absurd rfl (h ending)

theorem takeWhile_slash {type : List Char} (h : '/' ∉ type) (rest : List Char) :
    (type ++ '/' :: rest).takeWhile (· ≠ '/') = type := by
  rw [List.takeWhile_append_of_pos, List.takeWhile_cons_of_neg (by decide), List.append_nil]
  intro c hc
  exact decide_eq_true fun heq => h (heq ▸ hc)

/-- The type of a media type comes before its first slash. -/
theorem takeWhile_slash_iff {type : List Char} (h : '/' ∉ type) :
    '/' ∈ name ∧ name.takeWhile (· ≠ '/') = type ↔ type ++ ['/'] <+: name := by
  constructor
  · rintro ⟨hmem, rfl⟩
    obtain ⟨before, after, rfl, hbefore⟩ := List.eq_append_cons_of_mem hmem
    rw [takeWhile_slash hbefore]
    exact ⟨after, List.append_assoc before ['/'] after⟩
  · rintro ⟨rest, rfl⟩
    rw [List.append_assoc, List.singleton_append]
    exact ⟨List.mem_append_right _ List.mem_cons_self, takeWhile_slash h rest⟩

/-- A pattern that ends with an asterisk after a slash asks for a type. -/
theorem patternMatches_type_iff (hname : IsLowered name) (type : List Char) (htype : IsLowered type)
    (hstar : type.head? ≠ some '*') (hslash : '/' ∉ type) :
    patternMatches (type ++ ['/', '*']) name = true ↔ type ++ ['/'] <+: name := by
  have hends : endsWith ['/', '*'] (type ++ ['/', '*']) = true :=
    List.isSuffixOf_iff_suffix.2 (List.suffix_append _ _)
  have hprefix : IsLowered (name.takeWhile (· ≠ '/')) := fun c hc =>
    hname c (List.takeWhile_subset _ hc)
  have htake : (type ++ ['/', '*']).take ((type ++ ['/', '*']).length - 2) = type := by simp
  have hhead : ∀ rest, type ++ ['/', '*'] ≠ '*' :: rest := by
    intro rest heq
    cases type with
    | nil => cases heq
    | cons c more => exact hstar (congrArg some (List.cons.inj heq).1)
  unfold patternMatches
  split
  · rename_i heq
    exact absurd heq (hhead _)
  · rename_i heq
    exact absurd heq (hhead _)
  · rw [if_pos hends, htake, Bool.and_eq_true, List.contains_iff_mem, sameFolded_iff hprefix htype,
      takeWhile_slash_iff hslash]

/-- A pattern without an asterisk at its start or end asks for the whole text. -/
theorem patternMatches_whole_iff (hname : IsLowered name) (hpattern : IsLowered pattern)
    (hstar : pattern.head? ≠ some '*') (hends : endsWith ['/', '*'] pattern = false) :
    patternMatches pattern name = true ↔ name = pattern := by
  unfold patternMatches
  split
  · exact absurd rfl hstar
  · exact absurd rfl hstar
  · rw [hends, if_neg Bool.false_ne_true, sameFolded_iff hpattern hname, eq_comm]

/-! ## The default preferences -/

/-- The rank of a text among the default preferences. -/
def defaultRank (name : List Char) : Nat :=
  if name = "application/json".toList then 0
  else if 5 < name.length ∧ "+json".toList <:+ name then 1
  else if name = "multipart/form-data".toList then 2
  else if name = "application/x-www-form-urlencoded".toList then 3
  else if "text/".toList <+: name then 4
  else if name = "application/octet-stream".toList then 5
  else 6

theorem mediaTypeRank?_default {m : String} (h : IsAscii m.toList) :
    ({} : Config).mediaTypeRank? m = some (defaultRank ((essence m).map Char.toLower)) := by
  have hname : IsLowered ((essence m).map Char.toLower) := by
    have htake : IsAscii (m.toList.takeWhile (· ≠ ';')) := fun c hc =>
      h c (List.takeWhile_subset _ hc)
    exact htake.trim.isLowered_map_toLower
  unfold Config.mediaTypeRank?
  simp only [← patternMatches_map_toLower _ (essence m)]
  generalize (essence m).map Char.toLower = name at hname ⊢
  have hjson : patternMatches "application/json".toList name = true ↔ _ :=
    patternMatches_whole_iff hname (by decide) (by decide) (by decide)
  have hsuffix : patternMatches "*+json".toList name = true ↔ _ :=
    patternMatches_ending_iff hname "+json".toList (by decide) (by decide)
  have hform : patternMatches "multipart/form-data".toList name = true ↔ _ :=
    patternMatches_whole_iff hname (by decide) (by decide) (by decide)
  have hurl : patternMatches "application/x-www-form-urlencoded".toList name = true ↔ _ :=
    patternMatches_whole_iff hname (by decide) (by decide) (by decide)
  have htext : patternMatches "text/*".toList name = true ↔ _ :=
    patternMatches_type_iff hname "text".toList (by decide) (by decide) (by decide)
  have hoctet : patternMatches "application/octet-stream".toList name = true ↔ _ :=
    patternMatches_whole_iff hname (by decide) (by decide) (by decide)
  have hany : patternMatches "*/*".toList name = true := rfl
  simp only [List.findIdx?_cons, hjson, hsuffix, hform, hurl, htext, hoctet, hany, if_true,
    apply_ite (Option.map fun i => i + 1), Option.map_some, defaultRank, apply_ite some]
  rfl

/-- The kind of encoding that a rank among the default preferences stands for. -/
def rankedKind? : Nat → Option MediaKind
  | 0 | 1 => some .json
  | 2 => some .formData
  | 3 => some .urlSearchParams
  | 4 => some .text
  | 5 => some .octetStream
  | _ => none

theorem defaultRank_le (name : List Char) : defaultRank name ≤ 6 := by
  unfold defaultRank
  repeat' split
  all_goals decide

/-- Kinds look at whole names first and ranks at endings in between, but no whole name has the ending or
the type that another rule asks for. -/
theorem kind?_eq_rankedKind? {m : String} (h : (essence m).map Char.toLower ≠ "+json".toList) :
    MediaType.kind? m = rankedKind? (defaultRank ((essence m).map Char.toLower)) := by
  unfold MediaType.kind?
  generalize (essence m).map Char.toLower = name at h ⊢
  have hending : endsWith "+json".toList name = true ↔ 5 < name.length ∧ "+json".toList <:+ name := by
    rw [endsWith, List.isSuffixOf_iff_suffix, iff_and_self]
    intro hsuffix
    refine lt_of_le_of_ne hsuffix.length_le fun hlength => h ?_
    exact (hsuffix.eq_of_length hlength).symm
  have htype : "text/".toList.isPrefixOf name = true ↔ "text/".toList <+: name :=
    List.isPrefixOf_iff_prefix
  dsimp only
  by_cases hjson : name = "application/json".toList
  · rw [hjson]
    decide
  by_cases hform : name = "multipart/form-data".toList
  · rw [hform]
    decide
  by_cases hurl : name = "application/x-www-form-urlencoded".toList
  · rw [hurl]
    decide
  by_cases hoctet : name = "application/octet-stream".toList
  · rw [hoctet]
    decide
  rw [defaultRank, if_neg hjson, if_neg hform, if_neg hurl, if_neg hoctet, if_neg hjson, if_neg hform,
    if_neg hurl, if_neg hoctet]
  simp only [hending, htype, apply_ite rankedKind?]
  rfl

/-- The rank of a media type among the default preferences tells its kind. Every ASCII text has a rank,
and the kind that the rank stands for: the first two ranks are JSON, the last one is none. The ending
`+json` on its own is of the JSON kind, but the pattern asks for something before it. -/
theorem mediaTypeRank?_kind? {m : String} (hascii : IsAscii m.toList)
    (hending : (essence m).map Char.toLower ≠ "+json".toList) :
    ∃ rank, ({} : Config).mediaTypeRank? m = some rank ∧
      (MediaType.kind? m = some .json ↔ rank = 0 ∨ rank = 1) ∧
      (MediaType.kind? m = some .formData ↔ rank = 2) ∧
      (MediaType.kind? m = some .urlSearchParams ↔ rank = 3) ∧
      (MediaType.kind? m = some .text ↔ rank = 4) ∧
      (MediaType.kind? m = some .octetStream ↔ rank = 5) ∧
      (MediaType.kind? m = none ↔ rank = 6) := by
  refine ⟨_, mediaTypeRank?_default hascii, ?_⟩
  rw [kind?_eq_rankedKind? hending]
  have hle := defaultRank_le ((essence m).map Char.toLower)
  generalize defaultRank ((essence m).map Char.toLower) = rank at hle ⊢
  interval_cases rank <;> decide

/-- A text of the JSON ending is JSON by both rules, although the type alone would make it a text. -/
theorem mediaTypeRank?_kind?_textJson :
    IsAscii "Text/X+JSON ; charset=utf-8".toList ∧
      (essence "Text/X+JSON ; charset=utf-8").map Char.toLower ≠ "+json".toList ∧
      ({} : Config).mediaTypeRank? "Text/X+JSON ; charset=utf-8" = some 1 ∧
      MediaType.kind? "Text/X+JSON ; charset=utf-8" = some .json := by
  have hascii : IsAscii "Text/X+JSON ; charset=utf-8".toList := by decide
  have hending : (essence "Text/X+JSON ; charset=utf-8").map Char.toLower ≠ "+json".toList := by decide
  have hrank : ({} : Config).mediaTypeRank? "Text/X+JSON ; charset=utf-8" = some 1 := by decide
  obtain ⟨rank, hrank', hjson, -⟩ := mediaTypeRank?_kind? hascii hending
  have hone : rank = 1 := Option.some.inj (hrank'.symm.trans hrank)
  exact ⟨hascii, hending, hrank, hjson.2 (.inr hone)⟩

/-- The ending on its own is JSON, but has the rank of what no pattern names. -/
example : MediaType.kind? "+json" = some .json ∧ ({} : Config).mediaTypeRank? "+json" = some 6 := by
  decide

end MediaType

end ApiShape
