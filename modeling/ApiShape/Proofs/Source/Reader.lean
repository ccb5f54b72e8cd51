import ApiShape.Proofs.Dict
import ApiShape.Source.Reader

/-!
# What readers give

A condition on everything that a reader can give. Lists, dictionaries and records are read part by
part, so what holds of the parts holds of the whole.
-/

namespace ApiShape.Reader

variable {α β : Type} {read : Reader α} {P : α → Prop}

/-- Whatever the reader gives satisfies the condition. -/
def Gives (read : Reader α) (P : α → Prop) : Prop :=
  ∀ s a, read s = .ok a → P a

theorem bind_eq_ok {r : Except Fault α} {f : α → Except Fault β} {b : β} :
    r >>= f = .ok b ↔ ∃ a, r = .ok a ∧ f a = .ok b := by
  cases r with
  | error e => simp [bind, Except.bind]
  | ok a => simp [bind, Except.bind]

theorem map_eq_ok {r : Except Fault α} {f : α → β} {b : β} :
    r.map f = .ok b ↔ ∃ a, r = .ok a ∧ f a = b := by
  cases r with
  | error e => simp [Except.map]
  | ok a => simp [Except.map]

theorem within_eq_ok {step : Step} {r : Except Fault α} {a : α} : within step r = .ok a ↔ r = .ok a := by
  cases r with
  | ok b => exact Iff.rfl
  | error e =>
    constructor
    · intro h
      cases h
    · intro h
      cases h

/-! ## Containers -/

theorem Gives.optional (h : read.Gives P) : (Reader.optional read).Gives fun a => ∀ b ∈ a, P b := by
  intro s a ha b hb
  unfold Reader.optional at ha
  split at ha
  · cases ha
    cases hb
  · obtain ⟨c, hs, rfl⟩ := map_eq_ok.1 ha
    cases hb
    exact h s b hs

theorem forall_mem_readItems (h : read.Gives P) {i : Nat} {items : List Source} {as : List α}
    (has : readItems read i items = .ok as) : ∀ a ∈ as, P a := by
  induction items generalizing i as with
  | nil =>
    cases has
    exact fun a ha => by cases ha
  | cons s rest ih =>
    obtain ⟨a, ha, has⟩ := bind_eq_ok.1 has
    obtain ⟨more, hmore, has⟩ := bind_eq_ok.1 has
    cases has
    rw [List.forall_mem_cons]
    exact ⟨h s a (within_eq_ok.1 ha), ih hmore⟩

theorem Gives.list (h : read.Gives P) : (Reader.list read).Gives fun as => ∀ a ∈ as, P a := by
  intro s as has
  unfold Reader.list at has
  split at has
  · exact forall_mem_readItems h has
  · cases has
  · cases has
  · split at has
    · cases has
      exact fun a ha => by cases ha
    · cases has

theorem forall_mem_readEntries (h : read.Gives P) {entries : List (Leaf × Source)}
    {as : List (String × α)} (has : readEntries read entries = .ok as) : ∀ e ∈ as, P e.2 := by
  induction entries generalizing as with
  | nil =>
    cases has
    exact fun e he => by cases he
  | cons entry rest ih =>
    obtain ⟨k, s⟩ := entry
    simp only [readEntries] at has
    split at has
    · obtain ⟨a, ha, has⟩ := bind_eq_ok.1 has
      obtain ⟨more, hmore, has⟩ := bind_eq_ok.1 has
      cases has
      rw [List.forall_mem_cons]
      exact ⟨h s a (within_eq_ok.1 ha), ih hmore⟩
    · cases has

theorem Gives.dict (h : read.Gives P) : (Reader.dict read).Gives fun d => ∀ e ∈ d, P e.2 := by
  intro s d hd
  unfold Reader.dict at hd
  split at hd
  · obtain ⟨as, hentries, rfl⟩ := map_eq_ok.1 hd
    exact fun e he => forall_mem_readEntries h hentries e (Dict.mem_ofList he)
  · cases hd
  · cases hd
  · split at hd
    · cases hd
      exact fun e he => by cases he
    · cases hd

/-- A dictionary that is read has every key once. -/
theorem gives_distinct (read : Reader α) : (Reader.dict read).Gives Dict.Distinct := by
  intro s d hd
  unfold Reader.dict at hd
  split at hd
  · obtain ⟨as, -, rfl⟩ := map_eq_ok.1 hd
    exact Dict.distinct_ofList as
  · cases hd
  · cases hd
  · split at hd
    · cases hd
      exact List.nodup_nil
    · cases hd

/-! ## Records -/

namespace Reading

/-- Whatever is read satisfies the condition. -/
def Gives (r : Reading α) (P : α → Prop) : Prop :=
  ∀ a, r = .ok a → P a

variable {f : Reading (α → β)} {x : Reading α} {Q : β → Prop}

theorem seq_eq_ok {b : β} : (f <*> x) = .ok b ↔ ∃ g a, f = .ok g ∧ x = .ok a ∧ g a = b := by
  change both f x = .ok b ↔ _
  constructor
  · intro h
    cases f with
    | ok g =>
      cases x with
      | ok a => exact ⟨g, a, rfl, rfl, Except.ok.inj h⟩
      | error e => cases h
    | error e =>
      cases x with
      | ok a => cases h
      | error e' =>
        -- The first of the two faults stays, whichever it is.
        by_cases hle : e.1 ≤ e'.1 <;> simp [both, hle] at h
  · rintro ⟨g, a, rfl, rfl, rfl⟩
    rfl

/-- A field that the condition depends on. -/
theorem Gives.seq (hx : x.Gives P) (hf : f.Gives fun g => ∀ a, P a → Q (g a)) :
    Gives (f <*> x) Q := by
  intro b h
  obtain ⟨g, a, hg, ha, rfl⟩ := seq_eq_ok.1 h
  exact hf g hg a (hx a ha)

/-- A field that the condition does not depend on. -/
theorem Gives.skip (hf : f.Gives fun g => ∀ a, Q (g a)) : Gives (f <*> x) Q := by
  intro b h
  obtain ⟨g, a, hg, -, rfl⟩ := seq_eq_ok.1 h
  exact hf g hg a

/-- The fields before the first that the condition depends on. -/
theorem gives_map {g : α → β} (h : ∀ a, Q (g a)) : Gives (g <$> x) Q := by
  change Gives (pure g <*> x) Q
  refine Gives.skip fun g' hg' => ?_
  cases hg'
  exact h

theorem Gives.map {g : α → β} (hx : x.Gives P) (h : ∀ a, P a → Q (g a)) : Gives (g <$> x) Q := by
  change Gives (pure g <*> x) Q
  refine Gives.seq hx fun g' hg' => ?_
  cases hg'
  exact h

end Reading

open Reading

theorem Gives.field (h : read.Gives P) {absent : α} (habsent : P absent) (r : Record) (name : String) :
    (r.field name read absent).Gives P := by
  intro a ha
  unfold Record.field at ha
  split at ha
  · unfold Record.readAt at ha
    split at ha
    · rename_i b hb
      cases ha
      exact h _ a hb
    · cases ha
  · cases ha
    exact habsent

theorem Gives.optionalField (h : read.Gives P) (r : Record) (name : String) :
    (r.optional name read).Gives fun a => ∀ b ∈ a, P b :=
  h.optional.field (fun b hb => by cases hb) r name

/-- The fields of a record are read together with the check of the whole, which adds nothing to
them. -/
theorem of_record_read {r : Record} {fields : Record → Reading α} {a : α}
    (h : r.read fields = .ok a) : fields r = .ok a ∧ r.checked = .ok () := by
  unfold Record.read Reading.run at h
  split at h
  · rename_i b hb
    cases h
    change ((pure (fun a _ => a) <*> fields r) <*> r.checked) = .ok a at hb
    obtain ⟨g, u, hg, hchecked, rfl⟩ := seq_eq_ok.1 hb
    obtain ⟨g', a', hg', hr, rfl⟩ := seq_eq_ok.1 hg
    cases hg'
    exact ⟨hr, hchecked⟩
  · cases h

theorem gives_record {names : List String} {fields : Record → Reading α}
    (h : ∀ r, (fields r).Gives P) : (record names fields).Gives P := by
  intro s a ha
  obtain ⟨r, -, ha⟩ := bind_eq_ok.1 ha
  exact h r a (of_record_read ha).1

theorem gives_openRecord {names : List String} {fields : Record → Reading α}
    (h : ∀ r, (fields r).Gives P) : (openRecord names fields).Gives P := by
  intro s a ha
  unfold openRecord at ha
  split at ha
  · cases ha
  · exact gives_record h s a ha

end ApiShape.Reader
