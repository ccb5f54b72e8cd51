import ApiShape.Config.Basic
import ApiShape.Proofs.Alongside.Report
import Mathlib

/-!
# Media types that are alike

Media types are alike if they differ in the case of ASCII letters, in what comes after the first
semicolon, and in blanks before it at most. Media types that are alike name the same kind of encoding
and have the same rank among preferences, so of choices that are alike the same one is picked.
-/

namespace ApiShape

/-! ## ASCII letters -/

/-- What holds of the capital letters of ASCII, and of all characters that are their own lower case,
holds of all characters. -/
theorem forall_char_of_toLower {P : Char → Prop} (hcapital : ∀ n < 26, P (Char.ofNat (65 + n)))
    (hother : ∀ c : Char, c.toLower = c → P c) (c : Char) : P c := by
  by_cases hc : c.isUpper = true
  · have hbounds : 65 ≤ c.toNat ∧ c.toNat ≤ 90 := by
      simpa [Char.isUpper, UInt32.le_iff_toNat_le] using hc
    have hofNat : Char.ofNat (65 + (c.toNat - 65)) = c := by
      rw [Nat.add_sub_cancel' hbounds.1, Char.ofNat_toNat]
    exact hofNat ▸ hcapital (c.toNat - 65) (by omega)
  · exact hother c (Char.toLower_eq_of_not_isUpper hc)

namespace Text

theorem foldChar_toLower : ∀ c : Char, foldChar c.toLower = foldChar c :=
  forall_char_of_toLower (by decide) fun _ h => congrArg foldChar h

theorem utf8Size_toLower : ∀ c : Char, c.toLower.utf8Size = c.utf8Size :=
  forall_char_of_toLower (by decide) fun _ h => congrArg Char.utf8Size h

theorem toLower_eq_slash_iff : ∀ c : Char, c.toLower = '/' ↔ c = '/' :=
  forall_char_of_toLower (by decide) fun _ h => by rw [h]

theorem toLower_eq_semicolon_iff : ∀ c : Char, c.toLower = ';' ↔ c = ';' :=
  forall_char_of_toLower (by decide) fun _ h => by rw [h]

theorem isBlank_toLower : ∀ c : Char, isBlank c.toLower = isBlank c :=
  forall_char_of_toLower (by decide) fun _ h => congrArg isBlank h

theorem toLower_toLower : ∀ c : Char, c.toLower.toLower = c.toLower :=
  forall_char_of_toLower (by decide) fun _ h => congrArg Char.toLower h

theorem trim_map_toLower (cs : List Char) :
    trim (cs.map Char.toLower) = (trim cs).map Char.toLower := by
  have hblank : isBlank ∘ Char.toLower = isBlank := funext isBlank_toLower
  unfold trim trimEnd
  rw [List.dropWhile_map, hblank, ← List.map_reverse, List.dropWhile_map, hblank, List.map_reverse]

theorem caseFold_map_toLower (cs : List Char) : caseFold (cs.map Char.toLower) = caseFold cs := by
  unfold caseFold
  rw [List.flatMap_map]
  exact List.flatMap_congr fun c _ => foldChar_toLower c

end Text

namespace MediaType

/-! ## Patterns -/

theorem sameFolded_map_toLower (a b : List Char) :
    sameFolded (a.map Char.toLower) b = sameFolded a b := by
  rw [sameFolded, sameFolded, Text.caseFold_map_toLower]

theorem byteSize_map_toLower (cs : List Char) : byteSize (cs.map Char.toLower) = byteSize cs := by
  unfold byteSize
  rw [List.map_map]
  exact congrArg _ (List.map_congr_left fun c _ => Text.utf8Size_toLower c)

theorem lastBytes?_map_toLower (size : Nat) (cs : List Char) :
    lastBytes? size (cs.map Char.toLower) = (lastBytes? size cs).map (List.map Char.toLower) := by
  induction cs with
  | nil =>
    rw [List.map_nil, lastBytes?]
    split <;> rfl
  | cons c rest ih =>
    have hsize := byteSize_map_toLower (c :: rest)
    rw [List.map_cons] at hsize ⊢
    rw [lastBytes?, lastBytes?, hsize]
    split
    · rfl
    · exact ih

theorem takeWhile_map_toLower (cs : List Char) :
    (cs.map Char.toLower).takeWhile (· ≠ '/') = (cs.takeWhile (· ≠ '/')).map Char.toLower := by
  rw [List.takeWhile_map]
  congr 2
  funext c
  simp only [Function.comp_apply, ne_eq, Text.toLower_eq_slash_iff]

theorem contains_map_toLower (cs : List Char) :
    (cs.map Char.toLower).contains '/' = cs.contains '/' := by
  rw [Bool.eq_iff_iff, List.contains_iff_mem, List.contains_iff_mem, List.mem_map]
  constructor
  · rintro ⟨c, hc, heq⟩
    rwa [(Text.toLower_eq_slash_iff c).1 heq] at hc
  · exact fun h => ⟨'/', h, rfl⟩

/-- The case of ASCII letters plays no part in whether a pattern matches. -/
theorem patternMatches_map_toLower (pattern cs : List Char) :
    patternMatches pattern (cs.map Char.toLower) = patternMatches pattern cs := by
  unfold patternMatches
  split
  · rfl
  · rename_i ending _
    rw [byteSize_map_toLower, lastBytes?_map_toLower, Option.any_map]
    congr 2
    funext tail
    exact sameFolded_map_toLower tail ending
  · have hwhole : sameFolded pattern (cs.map Char.toLower) = sameFolded pattern cs := by
      rw [sameFolded, sameFolded, Text.caseFold_map_toLower]
    rw [contains_map_toLower, takeWhile_map_toLower, sameFolded_map_toLower, hwhole]

/-! ## Media types -/

/-- The media types differ in case, in parameters, and in blanks before them at most. -/
def Alike (a b : String) : Prop :=
  (essence a).map Char.toLower = (essence b).map Char.toLower

instance (a b : String) : Decidable (Alike a b) :=
  inferInstanceAs (Decidable (_ = _))

theorem Alike.refl (a : String) : Alike a a :=
  rfl

theorem essence_map_toLower (a : String) :
    essence (a.map Char.toLower) = (essence a).map Char.toLower := by
  have hsemicolon : (fun c : Char => decide (c ≠ ';')) ∘ Char.toLower = fun c => decide (c ≠ ';') :=
    funext fun c => decide_eq_decide.2 (not_congr (Text.toLower_eq_semicolon_iff c))
  unfold essence
  rw [String.toList_map, List.takeWhile_map, hsemicolon, Text.trim_map_toLower]

/-- A media type is like itself in lower case. -/
theorem Alike.map_toLower (a : String) : Alike (a.map Char.toLower) a := by
  unfold Alike
  rw [essence_map_toLower, List.map_map]
  exact List.map_congr_left fun c _ => Text.toLower_toLower c

example : Alike "Application/JSON ; charset=utf-8" "application/json" := by decide

variable {a b : String}

theorem Alike.kind? (h : Alike a b) : MediaType.kind? a = MediaType.kind? b := by
  unfold MediaType.kind?
  rw [show (essence a).map Char.toLower = (essence b).map Char.toLower from h]

/-- Forms in parts are of their kind in any case of letters. -/
theorem kind?_of_plain {m : String} (h : m.map Char.toLower = "multipart/form-data") :
    MediaType.kind? m = some .formData := by
  rw [← (Alike.map_toLower m).kind?, h]
  decide

theorem Alike.rank (h : Alike a b) (config : Config) :
    config.mediaTypeRank? a = config.mediaTypeRank? b := by
  have hmatches : ∀ pattern, patternMatches pattern (essence a) = patternMatches pattern (essence b) := by
    intro pattern
    rw [← patternMatches_map_toLower pattern (essence a),
      ← patternMatches_map_toLower pattern (essence b),
      show (essence a).map Char.toLower = (essence b).map Char.toLower from h]
  unfold Config.mediaTypeRank?
  simp only [hmatches]

end MediaType

/-! ## Choices -/

/-- The most preferred of choices that correspond correspond, if their media types have the same rank. -/
theorem Config.rel_pick? {α β : Type} {R : α → β → Prop} (config : Config) {mediaType : α → String}
    {mediaType' : β → String}
    (hR : ∀ a b, R a b → config.mediaTypeRank? (mediaType a) = config.mediaTypeRank? (mediaType' b))
    {as : List α} {bs : List β} (h : List.Forall₂ R as bs) :
    Option.Rel R (config.pick? mediaType as) (config.pick? mediaType' bs) := by
  unfold Config.pick?
  refine List.rel_foldl (P := Option.Rel R) (R := R) ?_ .none h
  intro best best' hbest a b hab
  cases hbest with
  | none => exact .some hab
  | @some c c' hc =>
    have hbetter : betterRank (config.mediaTypeRank? (mediaType a))
          (config.mediaTypeRank? (mediaType c)) =
        betterRank (config.mediaTypeRank? (mediaType' b)) (config.mediaTypeRank? (mediaType' c')) := by
      rw [hR a b hab, hR c c' hc]
    show Option.Rel R (if _ = true then some a else some c) (if _ = true then some b else some c')
    by_cases h : betterRank (config.mediaTypeRank? (mediaType a))
        (config.mediaTypeRank? (mediaType c)) = true
    · rw [if_pos h, if_pos (hbetter ▸ h)]
      exact .some hab
    · rw [if_neg h, if_neg (hbetter ▸ h)]
      exact .some hc

end ApiShape
