import ApiShape.Document.SchemaReader
import ApiShape.Proofs.Source.Reader

/-!
# Sources that can be read

A reader never passes over a place where the text goes wrong: what is read as anything at all goes
right up to its end. The fields of a record are read one by one, and those that it does not know are
checked with it.
-/

namespace ApiShape

namespace Source

open Reader (bind_eq_ok map_eq_ok)

theorem intactItems_iff {items : List Source} :
    intactItems items = true ↔ ∀ s ∈ items, s.intact = true := by
  induction items with
  | nil => simp [intactItems]
  | cons s rest ih => simp [intactItems, ih]

theorem intactEntries_iff {entries : List (Leaf × Source)} :
    intactEntries entries = true ↔ ∀ e ∈ entries, e.2.intact = true := by
  induction entries with
  | nil => simp [intactEntries]
  | cons e rest ih =>
    obtain ⟨k, s⟩ := e
    simp [intactEntries, ih]

mutual

theorem intact_of_settle : (s : Source) → ∀ {t : Source}, s.settle = .ok t → s.intact = true
  | .leaf _, _, _ => rfl
  | .list _ items, _, h => by
    obtain ⟨ts, hts, -⟩ := map_eq_ok.1 h
    exact intactItems_of_settle items hts
  | .mapping entries, _, h => by
    obtain ⟨ts, hts, -⟩ := map_eq_ok.1 h
    exact intactEntries_of_settle entries hts
  | .unreadable, _, h | .broken, _, h => by cases h

theorem intactItems_of_settle :
    (items : List Source) → ∀ {ts : List Source}, settleItems items = .ok ts →
      intactItems items = true
  | [], _, _ => rfl
  | s :: rest, _, h => by
    obtain ⟨t, ht, h⟩ := bind_eq_ok.1 h
    obtain ⟨ts, hts, -⟩ := bind_eq_ok.1 h
    rw [intactItems, intact_of_settle s ht, intactItems_of_settle rest hts]
    rfl

theorem intactEntries_of_settle :
    (entries : List (Leaf × Source)) → ∀ {ts : List (Leaf × Source)},
      settleEntries entries = .ok ts → intactEntries entries = true
  | [], _, _ => rfl
  | (k, s) :: rest, _, h => by
    obtain ⟨_, -, h⟩ := bind_eq_ok.1 h
    obtain ⟨t, ht, h⟩ := bind_eq_ok.1 h
    obtain ⟨ts, hts, -⟩ := bind_eq_ok.1 h
    rw [intactEntries, intact_of_settle s ht, intactEntries_of_settle rest hts]
    rfl

end

mutual

theorem intact_of_json : (s : Source) → ∀ {v : Json}, s.json = .ok v → s.intact = true
  | .leaf _, _, _ => rfl
  | .list _ items, _, h => by
    obtain ⟨vs, hvs, -⟩ := bind_eq_ok.1 h
    exact intactItems_of_json items hvs
  | .mapping entries, _, h => by
    obtain ⟨fields, hfields, -⟩ := bind_eq_ok.1 h
    exact intactEntries_of_json entries hfields
  | .unreadable, _, h | .broken, _, h => by cases h

theorem intactItems_of_json :
    (items : List Source) → ∀ {vs : List Json}, jsonItems items = .ok vs →
      intactItems items = true
  | [], _, _ => rfl
  | s :: rest, _, h => by
    obtain ⟨v, hv, h⟩ := bind_eq_ok.1 h
    obtain ⟨vs, hvs, -⟩ := bind_eq_ok.1 h
    rw [intactItems, intact_of_json s hv, intactItems_of_json rest hvs]
    rfl

theorem intactEntries_of_json :
    (entries : List (Leaf × Source)) → ∀ {fields : List (String × Json)},
      jsonEntries entries = .ok fields → intactEntries entries = true
  | [], _, _ => rfl
  | (k, s) :: rest, _, h => by
    rw [jsonEntries] at h
    split at h
    · obtain ⟨v, hv, h⟩ := bind_eq_ok.1 h
      obtain ⟨fields, hfields, -⟩ := bind_eq_ok.1 h
      rw [intactEntries, intact_of_json s hv, intactEntries_of_json rest hfields]
      rfl
    · cases h

end

end Source

namespace Reader

variable {α β : Type} {read : Reader α}

/-- Whatever the reader reads goes right up to its end. -/
def Careful (read : Reader α) : Prop :=
  ∀ s a, read s = .ok a → s.intact = true

/-! ## Scalars and containers -/

theorem careful_leafReader (read : Leaf → Except Fault α) : Careful (leafReader read) := by
  intro s a h
  cases s with
  | leaf l => rfl
  | list _ _ | mapping _ | unreadable | broken => cases h

theorem careful_text : Careful text :=
  careful_leafReader _

theorem careful_flag : Careful flag :=
  careful_leafReader _

theorem careful_json : Careful json :=
  fun s _ h => s.intact_of_json h

theorem Careful.map (h : read.Careful) (f : α → β) : Careful fun s => (read s).map f := by
  intro s b hb
  obtain ⟨a, hread, -⟩ := map_eq_ok.1 hb
  exact h s a hread

theorem careful_choice (name : α → String) (choices : List α) : Careful (choice name choices) := by
  intro s a h
  unfold choice at h
  split at h
  · rfl
  · split at h
    · split at h <;> cases h
    · split at h
      · rfl
      · cases h
      · cases h
      · cases h
      · cases h
  · cases h

theorem intact_of_isBlank {s : Source} (h : s.isBlank = true) : s.intact = true := by
  cases s with
  | leaf l => rfl
  | list _ _ | mapping _ | unreadable | broken => cases h

theorem Careful.optional (h : read.Careful) : (Reader.optional read).Careful := by
  intro s a ha
  unfold Reader.optional at ha
  split at ha
  · rename_i hnull
    cases s with
    | leaf l => rfl
    | list _ _ | mapping _ | unreadable | broken => cases hnull
  · obtain ⟨b, hread, -⟩ := map_eq_ok.1 ha
    exact h s b hread

theorem Careful.list (h : read.Careful) : (Reader.list read).Careful := by
  have hitems : ∀ {i : Nat} {items : List Source} {as : List α},
      readItems read i items = .ok as → ∀ s ∈ items, s.intact = true := by
    intro i items as has
    induction items generalizing i as with
    | nil => exact List.forall_mem_nil _
    | cons s rest ih =>
      obtain ⟨a, ha, has⟩ := bind_eq_ok.1 has
      obtain ⟨more, hmore, -⟩ := bind_eq_ok.1 has
      exact List.forall_mem_cons.2 ⟨h s a (within_eq_ok.1 ha), ih hmore⟩
  intro s as has
  unfold Reader.list at has
  split at has
  · exact Source.intactItems_iff.2 (hitems has)
  · cases has
  · cases has
  · split at has
    · rename_i hblank
      exact intact_of_isBlank hblank
    · cases has

theorem Careful.dict (h : read.Careful) : (Reader.dict read).Careful := by
  have hentries : ∀ {entries : List (Leaf × Source)} {as : List (String × α)},
      readEntries read entries = .ok as → ∀ e ∈ entries, e.2.intact = true := by
    intro entries as has
    induction entries generalizing as with
    | nil => exact List.forall_mem_nil _
    | cons e rest ih =>
      rw [readEntries] at has
      split at has
      · obtain ⟨a, ha, has⟩ := bind_eq_ok.1 has
        obtain ⟨more, hmore, -⟩ := bind_eq_ok.1 has
        exact List.forall_mem_cons.2 ⟨h e.2 a (within_eq_ok.1 ha), ih hmore⟩
      · cases has
  intro s d hd
  unfold Reader.dict at hd
  split at hd
  · obtain ⟨as, has, -⟩ := map_eq_ok.1 hd
    exact Source.intactEntries_iff.2 (hentries has)
  · cases hd
  · cases hd
  · split at hd
    · rename_i hblank
      exact intact_of_isBlank hblank
    · cases hd

theorem careful_refOr (read : Reader α) : Careful (RefOr.read read) := by
  intro s place h
  unfold RefOr.read at h
  split at h
  · cases h
  · cases h
  · rename_i t ht
    exact s.intact_of_settle ht

theorem careful_schema : Careful Schema.read := by
  intro s place h
  unfold Schema.read at h
  split at h
  · cases h
  · cases h
  · rename_i t ht
    exact s.intact_of_settle ht

/-! ## Records -/

/-- The first field of the name goes right up to its end. -/
def Record.IntactAt (r : Record) (name : String) : Prop :=
  ∀ f ∈ r.fields.find? (·.name = name), f.source.intact = true

/-- The reading succeeds only if the fields of the names go right up to their ends. -/
def Reading.Covers (x : Reading α) (r : Record) (names : List String) : Prop :=
  ∀ a, x = .ok a → ∀ name ∈ names, r.IntactAt name

theorem map_snd_find? (r : Record) (name : String) :
    (r.find? name).map (·.2) = r.fields.find? (·.name = name) := by
  unfold Record.find?
  induction r.fields with
  | nil => rfl
  | cons f rest ih =>
    rw [List.findIdx?_cons, List.find?_cons]
    by_cases hname : f.name = name
    · simp [hname]
    · simp only [hname, decide_false, Bool.false_eq_true, if_false, ← ih]
      cases rest.findIdx? fun f => decide (f.name = name) with
      | none => rfl
      | some i => simp [Function.comp_def]

section Fields

open Reading

variable {r : Record} {name : String} {names more : List String} {f : Reading (α → β)}
  {x : Reading α}

theorem covers_readAt (hread : read.Careful)
    (h : ∀ a found, r.find? name = some found → x = .ok a → Record.readAt read found = .ok a) :
    x.Covers r [name] := by
  intro a ha
  refine List.forall_mem_singleton.2 fun f hf => ?_
  rw [← map_snd_find?, Option.mem_def, Option.map_eq_some_iff] at hf
  obtain ⟨found, hfound, rfl⟩ := hf
  have hat := h a found hfound ha
  unfold Record.readAt at hat
  split at hat
  · rename_i b hb
    exact hread _ b hb
  · cases hat

theorem covers_field (hread : read.Careful) {absent : α} :
    (r.field name read absent).Covers r [name] := by
  refine covers_readAt hread fun a found hfound ha => ?_
  unfold Record.field at ha
  rwa [hfound] at ha

theorem covers_required (hread : read.Careful) : (r.required name read).Covers r [name] := by
  refine covers_readAt hread fun a found hfound ha => ?_
  unfold Record.required at ha
  rwa [hfound] at ha

theorem covers_optional (hread : read.Careful) : (r.optional name read).Covers r [name] :=
  covers_field hread.optional

theorem Reading.Covers.seq (hf : f.Covers r names) (hx : x.Covers r more) :
    Covers (f <*> x) r (names ++ more) := by
  intro b hb
  obtain ⟨g, a, hg, ha, -⟩ := seq_eq_ok.1 hb
  exact List.forall_mem_append.2 ⟨hf g hg, hx a ha⟩

theorem Reading.Covers.skip (hf : f.Covers r names) : Covers (f <*> x) r names := by
  intro b hb
  obtain ⟨g, a, hg, -, -⟩ := seq_eq_ok.1 hb
  exact hf g hg

theorem Reading.Covers.map (hx : x.Covers r names) (g : α → β) : Covers (g <$> x) r names := by
  intro b hb
  change (pure g <*> x) = .ok b at hb
  obtain ⟨g', a, -, ha, -⟩ := seq_eq_ok.1 hb
  exact hx a ha

/-! Fields after those that come first. -/

theorem Reading.Covers.field (hf : f.Covers r names) (hread : read.Careful) {absent : α} :
    Covers (f <*> r.field name read absent) r (names ++ [name]) :=
  hf.seq (covers_field hread)

theorem Reading.Covers.required (hf : f.Covers r names) (hread : read.Careful) :
    Covers (f <*> r.required name read) r (names ++ [name]) :=
  hf.seq (covers_required hread)

theorem Reading.Covers.optional {f : Reading (Option α → β)} (hf : f.Covers r names)
    (hread : read.Careful) : Covers (f <*> r.optional name read) r (names ++ [name]) :=
  hf.seq (covers_optional hread)

end Fields

/-- A known field is the only one of its name, and an unknown field goes right up to its end. -/
theorem mem_of_firstFault {names seen : List String} {i : Nat} {fields : List Field}
    (h : Record.firstFault names seen i fields = .ok ()) :
    ∀ f ∈ fields, (f.name ∉ names ∧ f.source.intact = true) ∨
      (f.name ∈ names ∧ f.name ∉ seen ∧ fields.find? (·.name = f.name) = some f) := by
  induction fields generalizing seen i with
  | nil => exact List.forall_mem_nil _
  | cons g rest ih =>
    simp only [Record.firstFault, List.contains_iff_mem] at h
    by_cases hknown : g.name ∈ names
    · by_cases hseen : g.name ∈ seen
      · simp only [hknown, hseen, if_true] at h
        cases h
      simp only [hknown, hseen, if_true] at h
      refine List.forall_mem_cons.2 ⟨.inr ⟨hknown, hseen, by simp⟩, fun f hf => ?_⟩
      rcases ih h f hf with hf | ⟨hname, hnew, hfind⟩
      · exact .inl hf
      · -- The name is new after the first field, so that field is passed over.
        rw [List.mem_cons, not_or] at hnew
        have hne : g.name ≠ f.name := Ne.symm hnew.1
        exact .inr ⟨hname, hnew.2, by simpa [hne] using hfind⟩
    · by_cases hintact : g.source.intact = true
      · simp only [hknown, hintact, if_false] at h
        refine List.forall_mem_cons.2 ⟨.inl ⟨hknown, hintact⟩, fun f hf => ?_⟩
        rcases ih h f hf with hf | ⟨hname, hnew, hfind⟩
        · exact .inl hf
        · have hne : g.name ≠ f.name := fun heq => hknown (heq ▸ hname)
          exact .inr ⟨hname, hnew, by simpa [hne] using hfind⟩
      · simp only [hknown, hintact, if_false] at h
        cases h

theorem map_source_mappingFields {names : List String} {entries : List (Leaf × Source)}
    {fields : List Field} (h : mappingFields names entries = some fields) :
    fields.map (·.source) = entries.map (·.2) := by
  induction entries generalizing fields with
  | nil =>
    cases h
    rfl
  | cons e rest ih =>
    obtain ⟨k, s⟩ := e
    simp only [mappingFields, Option.bind_eq_bind, Option.bind_eq_some_iff, Option.pure_def,
      Option.some.injEq] at h
    obtain ⟨name, -, more, hmore, rfl⟩ := h
    rw [List.map_cons, List.map_cons, ih hmore]

theorem map_source_listFields {i : Nat} {names : List String} {items : List Source}
    (h : items.length ≤ names.length) : (listFields i names items).map (·.source) = items := by
  induction items generalizing i names with
  | nil => cases names <;> rfl
  | cons s rest ih =>
    cases names with
    | nil => exact absurd h (by simp)
    | cons name names =>
      rw [listFields, List.map_cons, ih (Nat.le_of_succ_le_succ h)]

/-- A record without faults is intact if the fields that it knows are. -/
theorem intact_of_checked {r : Record} (hchecked : r.checked = .ok ())
    (hknown : ∀ name ∈ r.names, r.IntactAt name) :
    r.surplus = false ∧ ∀ f ∈ r.fields, f.source.intact = true := by
  unfold Record.checked at hchecked
  split at hchecked
  · rename_i hfirst
    cases hsurplus : r.surplus with
    | true =>
      rw [hsurplus] at hchecked
      cases hchecked
    | false =>
      refine ⟨rfl, fun f hf => ?_⟩
      rcases mem_of_firstFault hfirst f hf with ⟨-, hintact⟩ | ⟨hname, -, hfind⟩
      · exact hintact
      · exact hknown f.name hname f hfind
  · cases hchecked

theorem careful_record {names : List String} {fields : Record → Reading α}
    (h : ∀ r, (fields r).Covers r names) : Careful (record names fields) := by
  intro s a ha
  obtain ⟨r, hr, ha⟩ := bind_eq_ok.1 ha
  obtain ⟨hread, hchecked⟩ := of_record_read ha
  have hread := h r a hread
  unfold recordOf at hr
  split at hr
  · rename_i entries
    split at hr
    · rename_i fields' hfields
      cases hr
      have hintact : ∀ t ∈ fields'.map (·.source), t.intact = true :=
        List.forall_mem_map.2 (intact_of_checked hchecked hread).2
      rw [map_source_mappingFields hfields, List.forall_mem_map] at hintact
      exact Source.intactEntries_iff.2 hintact
    · cases hr
  · rename_i items
    cases hr
    -- There are no more items than names, so every item is a field.
    obtain ⟨hsurplus, hfields⟩ := intact_of_checked hchecked hread
    have hlength : items.length ≤ names.length := Nat.le_of_not_lt (of_decide_eq_false hsurplus)
    have hintact : ∀ t ∈ (listFields 0 names items).map (·.source), t.intact = true :=
      List.forall_mem_map.2 hfields
    rw [map_source_listFields hlength] at hintact
    exact Source.intactItems_iff.2 hintact
  · cases hr
  · cases hr
  · split at hr
    · rename_i hblank
      exact intact_of_isBlank hblank
    · cases hr

theorem careful_openRecord {names : List String} {fields : Record → Reading α}
    (h : ∀ r, (fields r).Covers r names) : Careful (openRecord names fields) := by
  intro s a ha
  unfold openRecord at ha
  split at ha
  · cases ha
  · exact careful_record h s a ha

end Reader

end ApiShape
