import ApiShape.Dict
import Mathlib.Data.List.Forall2
import Mathlib.Data.List.Induction

/-!
# What dictionaries hold

The entries that setting keys leaves in a dictionary, and the keys that it then has.
-/

namespace ApiShape

theorem eraseDups_of_nodup {α : Type} [BEq α] [LawfulBEq α] {as : List α} (h : as.Nodup) :
    as.eraseDups = as := by
  induction as with
  | nil => rfl
  | cons a rest ih =>
    have hnew := List.nodup_cons.1 h
    have hall : rest.filter (fun b => !b == a) = rest := by
      rw [List.filter_eq_self]
      intro b hb
      have hne : b ≠ a := fun hba => hnew.1 (hba ▸ hb)
      simp [hne]
    rw [List.eraseDups_cons, hall, ih hnew.2]

section

variable {α : Type} [BEq α] [LawfulBEq α]

theorem eraseDups_concat (as : List α) (a : α) :
    (as ++ [a]).eraseDups = if as.contains a then as.eraseDups else as.eraseDups ++ [a] := by
  rw [List.eraseDups_append, List.removeAll, List.filter_singleton, List.elem_eq_contains]
  cases as.contains a <;> simp [List.eraseDups_cons]

theorem nodup_eraseDups (as : List α) : as.eraseDups.Nodup := by
  induction as using List.reverseRecOn with
  | nil => exact List.nodup_nil
  | append_singleton as a ih =>
    rw [eraseDups_concat]
    split
    · exact ih
    · rename_i h
      rw [List.contains_iff_mem, ← List.mem_eraseDups] at h
      refine List.nodup_append.2 ⟨ih, List.pairwise_singleton _ a, fun b hb c hc hbc => h ?_⟩
      rw [← List.mem_singleton.1 hc, ← hbc]
      exact hb

end

namespace Dict

variable {α : Type}

theorem mem_insert {d : Dict α} {key : String} {a : α} {e : String × α}
    (h : e ∈ d.insert key a) : e ∈ d ∨ e = (key, a) := by
  induction d with
  | nil => exact .inr (List.mem_singleton.1 h)
  | cons e' rest ih =>
    obtain ⟨k, b⟩ := e'
    rw [insert] at h
    split at h
    · rename_i hk
      subst hk
      rcases List.mem_cons.1 h with rfl | h
      · exact .inr rfl
      · exact .inl (List.mem_cons_of_mem _ h)
    · rcases List.mem_cons.1 h with rfl | h
      · exact .inl List.mem_cons_self
      · rcases ih h with h | h
        · exact .inl (List.mem_cons_of_mem _ h)
        · exact .inr h

theorem mem_ofList {entries : List (String × α)} {e : String × α} (h : e ∈ ofList entries) :
    e ∈ entries := by
  -- Entries are set one after the other, in a dictionary that is not empty any more.
  have step : ∀ (rest : List (String × α)) (d : Dict α),
      e ∈ rest.foldl (fun d (key, a) => d.insert key a) d → e ∈ d ∨ e ∈ rest := by
    intro rest
    induction rest with
    | nil => exact fun d h => .inl h
    | cons e' rest ih =>
      intro d h
      rcases ih _ h with h | h
      · rcases mem_insert h with h | rfl
        · exact .inl h
        · exact .inr List.mem_cons_self
      · exact .inr (List.mem_cons_of_mem _ h)
  rcases step entries [] h with h | h
  · cases h
  · exact h

theorem has_ofList {entries : List (String × α)} {key : String}
    (h : key ∈ entries.map (·.1)) : (ofList entries).has key = true := by
  -- A key that is there stays there, and the key of every entry is there in the end.
  have step : ∀ (rest : List (String × α)) (d : Dict α),
      d.has key = true ∨ key ∈ rest.map (·.1) →
      Dict.has (rest.foldl (fun d (key, a) => d.insert key a) d) key = true := by
    intro rest
    induction rest with
    | nil =>
      rintro d (h | h)
      · exact h
      · cases h
    | cons e rest ih =>
      intro d h
      refine ih _ ?_
      rw [has, get?_insert]
      by_cases hk : e.1 = key
      · rw [if_pos hk]
        exact .inl rfl
      · rw [if_neg hk]
        rcases h with h | h
        · exact .inl h
        · rcases List.mem_cons.1 h with h | h
          · exact absurd h.symm hk
          · exact .inr h
  exact step entries [] (.inr h)

theorem has_of_mem_keys {d : Dict α} {key : String} (h : key ∈ d.keys) : d.has key = true := by
  induction d with
  | nil => cases h
  | cons e rest ih =>
    obtain ⟨k, a⟩ := e
    rw [has, get?]
    split
    · rfl
    · rename_i hk
      rcases List.mem_cons.1 h with h | h
      · exact absurd h.symm hk
      · exact ih h

theorem mem_of_get?_eq_some {d : Dict α} {key : String} {a : α} (h : d.get? key = some a) :
    (key, a) ∈ d := by
  induction d with
  | nil => cases h
  | cons e rest ih =>
    obtain ⟨k, b⟩ := e
    rw [get?] at h
    split at h
    · rename_i hk
      subst hk
      cases h
      exact List.mem_cons_self
    · exact List.mem_cons_of_mem _ (ih h)

theorem get?_eq_some_of_mem {d : Dict α} {key : String} {a : α} (hd : d.Distinct)
    (h : (key, a) ∈ d) : d.get? key = some a := by
  induction d with
  | nil => cases h
  | cons e rest ih =>
    obtain ⟨k, b⟩ := e
    simp only [Distinct, keys, List.map_cons, List.nodup_cons] at hd
    rcases List.mem_cons.1 h with h | h
    · cases h
      simp [get?]
    · have hne : k ≠ key := fun hk => hd.1 (hk ▸ List.mem_map.2 ⟨(key, a), h, rfl⟩)
      rw [get?, if_neg hne]
      exact ih hd.2 h

theorem get?_map {β : Type} (f : α → β) (d : Dict α) (key : String) :
    get? (List.map (fun e : String × α => (e.1, f e.2)) d) key = (d.get? key).map f := by
  induction d with
  | nil => rfl
  | cons e rest ih =>
    rw [List.map_cons, get?, get?]
    split
    · rfl
    · exact ih

theorem get?_append (d e : Dict α) (key : String) :
    get? (d ++ e) key = (d.get? key).or (e.get? key) := by
  induction d with
  | nil => rfl
  | cons entry rest ih =>
    obtain ⟨k, a⟩ := entry
    rw [List.cons_append, get?, get?]
    split
    · rfl
    · exact ih

theorem get?_filter_ne (d : Dict α) (key : String) :
    get? (d.filter fun e => e.1 ≠ key) key = none := by
  induction d with
  | nil => rfl
  | cons e rest ih =>
    rw [List.filter_cons]
    split
    · rename_i hkey
      rw [get?, if_neg (of_decide_eq_true hkey)]
      exact ih
    · exact ih

theorem get?_filter_eq (d : Dict α) (key : String) :
    get? (d.filter fun e => e.1 = key) key = get? d key := by
  induction d with
  | nil => rfl
  | cons e rest ih =>
    rw [List.filter_cons]
    by_cases hkey : e.1 = key
    · rw [if_pos (decide_eq_true hkey), get?, get?, if_pos hkey, if_pos hkey]
    · rw [if_neg (mt of_decide_eq_true hkey), get?, if_neg hkey]
      exact ih

theorem mem_keys_of_has {d : Dict α} {key : String} (h : d.has key = true) : key ∈ d.keys := by
  rw [has, Option.isSome_iff_exists] at h
  obtain ⟨a, ha⟩ := h
  exact List.mem_map.2 ⟨(key, a), mem_of_get?_eq_some ha, rfl⟩

theorem has_iff_mem_keys {d : Dict α} {key : String} : d.has key = true ↔ key ∈ d.keys :=
  ⟨mem_keys_of_has, has_of_mem_keys⟩

theorem insert_of_notMem {d : Dict α} {key : String} (h : key ∉ d.keys) (a : α) :
    d.insert key a = d ++ [(key, a)] := by
  induction d with
  | nil => rfl
  | cons e rest ih =>
    obtain ⟨k, b⟩ := e
    simp only [keys, List.map_cons, List.mem_cons, not_or] at h
    rw [insert, if_neg (Ne.symm h.1), ih h.2, List.cons_append]

theorem get?_of_notMem {d : Dict α} {key : String} (h : key ∉ d.keys) :
    d.get? key = none := by
  rw [← Option.not_isSome_iff_eq_none]
  exact fun hsome => h (mem_keys_of_has hsome)

/-- The last entry is replaced if no other has its key. -/
theorem insert_concat {d : Dict α} {key : String} (h : key ∉ d.keys) (a b : α) :
    insert (d ++ [(key, a)]) key b = d ++ [(key, b)] := by
  induction d with
  | nil => simp [insert]
  | cons e rest ih =>
    obtain ⟨k, c⟩ := e
    simp only [keys, List.map_cons, List.mem_cons, not_or] at h
    rw [List.cons_append, insert, if_neg (Ne.symm h.1), ih h.2, List.cons_append]

theorem foldl_insert_of_distinct {d entries : Dict α} (h : Distinct (d ++ entries)) :
    entries.foldl (fun d (e : String × α) => d.insert e.1 e.2) d = d ++ entries := by
  induction entries generalizing d with
  | nil => exact (List.append_nil d).symm
  | cons e rest ih =>
    have hassoc : d ++ e :: rest = d ++ [e] ++ rest := by simp
    rw [hassoc] at h
    have hnew : e.1 ∉ d.keys := by
      intro hmem
      simp only [Distinct, keys, List.map_append, List.append_assoc, List.nodup_append] at h
      exact h.2.2 e.1 hmem e.1 (by simp) rfl
    rw [List.foldl_cons, insert_of_notMem hnew, ih h, hassoc]

/-- Entries whose keys are all different are a dictionary. -/
theorem ofList_of_distinct {entries : Dict α} (h : Distinct entries) : ofList entries = entries :=
  foldl_insert_of_distinct (d := []) h

theorem distinct_map {β : Type} (f : String × α → β) {d : Dict α} :
    Distinct (d.map fun e => (e.1, f e)) ↔ d.Distinct := by
  unfold Distinct keys
  rw [List.map_map]
  rfl

/-! ## Repeated keys -/

/-- Among entries of which none of the known keys is repeated, a known key has one value. -/
theorem get?_of_mem_of_known {known : String → Bool} {entries : List (String × α)} {key : String}
    {a : α} (h : ((entries.map (·.1)).filter known).Nodup) (hkey : known key = true)
    (hmem : (key, a) ∈ entries) : get? entries key = some a := by
  have hdistinct : Distinct (entries.filter fun e => known e.1) := by
    rwa [List.filter_map] at h
  have hget := get?_eq_some_of_mem hdistinct (List.mem_filter.2 ⟨hmem, hkey⟩)
  rw [← hget]
  clear hmem hget hdistinct h
  induction entries with
  | nil => rfl
  | cons e rest ih =>
    rw [List.filter_cons, get?]
    by_cases he : e.1 = key
    · rw [if_pos he, he, if_pos hkey, get?, if_pos he]
    · rw [if_neg he, ih]
      split
      · rw [get?, if_neg he]
      · rfl

/-- The dictionary holds the only value of such a key. -/
theorem get?_ofList_of_known {known : String → Bool} {entries : List (String × α)} {key : String}
    (h : ((entries.map (·.1)).filter known).Nodup) (hkey : known key = true) :
    (ofList entries).get? key = get? entries key := by
  cases hget : (ofList entries).get? key with
  | none =>
    refine (get?_of_notMem fun hmem => ?_).symm
    have hhas := has_ofList hmem
    rw [has, hget] at hhas
    cases hhas
  | some a =>
    have hmem := mem_ofList (mem_of_get?_eq_some hget)
    exact (get?_of_mem_of_known h hkey hmem).symm

/-- Dictionaries of entries that correspond one to one hold values that correspond. -/
theorem get?_ofList_of_forall₂ {β : Type} {R : α → β → Prop} {as : List (String × α)}
    {bs : List (String × β)} (h : List.Forall₂ (fun e f => e.1 = f.1 ∧ R e.2 f.2) as bs)
    {key : String} {b : β} (hb : (ofList bs).get? key = some b) :
    ∃ a, (ofList as).get? key = some a ∧ R a b := by
  -- Setting corresponding entries keeps what is held under the key in correspondence.
  have step : ∀ (d : Dict α) (d' : Dict β),
      (∀ b, d'.get? key = some b → ∃ a, d.get? key = some a ∧ R a b) →
      ∀ b, get? (bs.foldl (fun d (e : String × β) => d.insert e.1 e.2) d') key = some b →
        ∃ a, get? (as.foldl (fun d (e : String × α) => d.insert e.1 e.2) d) key = some a ∧ R a b := by
    clear hb
    induction h with
    | nil => exact fun d d' hd => hd
    | @cons e f _ _ hef _ ih =>
      intro d d' hd
      refine ih _ _ fun b hb => ?_
      rw [get?_insert] at hb ⊢
      rw [hef.1]
      by_cases hkey : f.1 = key
      · rw [if_pos hkey] at hb ⊢
        exact ⟨e.2, rfl, Option.some.inj hb ▸ hef.2⟩
      · rw [if_neg hkey] at hb ⊢
        exact hd b hb
  exact step [] [] (fun _ hnil => nomatch hnil) b hb

end Dict

end ApiShape
