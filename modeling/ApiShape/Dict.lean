/-!
# Dictionaries in insertion order

A dictionary is a list of entries. A key that is set again keeps its position and takes the new
value, so a dictionary built by `insert` or `ofList` has every key once, in the order in which the
keys first came.
-/

namespace ApiShape

/-- Entries by name, in insertion order. -/
abbrev Dict (α : Type u) := List (String × α)

namespace Dict

/-- The value of the first entry with the key. -/
def get? : Dict α → String → Option α
  | [], _ => none
  | (k, a) :: rest, key => if k = key then some a else get? rest key

/-- The dictionary has an entry with the key. -/
def has (d : Dict α) (key : String) : Bool :=
  (d.get? key).isSome

/-- The keys, in order. -/
def keys (d : Dict α) : List String :=
  d.map (·.1)

/-- The values, in order of their keys. -/
def values (d : Dict α) : List α :=
  d.map (·.2)

/-- Sets a key: in place if the dictionary has it, at the end if not. -/
def insert : Dict α → String → α → Dict α
  | [], key, a => [(key, a)]
  | (k, b) :: rest, key, a =>
    if k = key then (k, a) :: rest else (k, b) :: insert rest key a

/-- The dictionary of a list of entries: of a repeated key the last value stays, at the first
position. -/
def ofList (entries : List (String × α)) : Dict α :=
  entries.foldl (fun d (key, a) => d.insert key a) []

/-- Every key occurs once. -/
def Distinct (d : Dict α) : Prop :=
  d.keys.Nodup

theorem get?_insert (d : Dict α) (key : String) (a : α) (k : String) :
    (d.insert key a).get? k = if key = k then some a else d.get? k := by
  induction d with
  | nil => simp [insert, get?]
  | cons e rest ih =>
    obtain ⟨k', b⟩ := e
    by_cases h : k' = key
    · subst h
      by_cases h' : k' = k <;> simp [insert, get?, h']
    · by_cases h' : k' = k
      · subst h'
        have : ¬ key = k' := fun e => h e.symm
        simp [insert, get?, h, this]
      · simp [insert, get?, h, h', ih]

theorem mem_keys_insert {d : Dict α} {key k : String} {a : α} :
    k ∈ (d.insert key a).keys ↔ k = key ∨ k ∈ d.keys := by
  induction d with
  | nil => simp [insert, keys]
  | cons e rest ih =>
    obtain ⟨k', b⟩ := e
    by_cases h : k' = key
    · subst h
      simp [insert, keys]
    · simp only [keys] at ih
      simp only [insert, h, ite_false, keys, List.map_cons, List.mem_cons, ih]
      constructor
      · rintro (h | h | h) <;> simp [h]
      · rintro (h | h | h) <;> simp [h]

theorem distinct_insert {d : Dict α} (h : d.Distinct) (key : String) (a : α) :
    (d.insert key a).Distinct := by
  induction d with
  | nil => simp [insert, Distinct, keys]
  | cons e rest ih =>
    obtain ⟨k', b⟩ := e
    simp only [Distinct, keys, List.map_cons, List.nodup_cons] at h
    by_cases hk : k' = key
    · subst hk
      simpa [insert, Distinct, keys] using h
    · have hrest := ih h.2
      have hnot : k' ∉ (Dict.keys (Dict.insert rest key a)) := by
        rw [mem_keys_insert]
        rintro (rfl | hmem)
        · exact hk rfl
        · exact h.1 hmem
      simpa [insert, hk, Distinct, keys] using And.intro hnot hrest

theorem distinct_ofList (entries : List (String × α)) : (ofList entries).Distinct := by
  have step : ∀ (d : Dict α), d.Distinct →
      (entries.foldl (fun d (key, a) => d.insert key a) d).Distinct := by
    induction entries with
    | nil => intro d h; exact h
    | cons e rest ih => intro d h; exact ih _ (distinct_insert h e.1 e.2)
  exact step [] (by simp [Distinct, keys])

end Dict

end ApiShape
