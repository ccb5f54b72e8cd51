import ApiShape.Document.Ancestors
import ApiShape.Proofs.Document.Places
import Mathlib.Logic.Relation

/-!
# The search for ancestors

The search meets a branch and everything above it before it goes to the next branch, and takes
every reference up once. It misses nothing by that: what lies above a reference that is met again was
met the first time.
-/

namespace ApiShape

/-- The places of the branches of a schema are its branches as written. -/
theorem Schema.map_place_branches (s : Schema) (location : String) :
    (s.branches location).map (·.place) = s.allOf.getD [] := by
  suffices h : ∀ i places, (branchesFrom location i places).map (·.place) = places from
    h 0 (s.allOf.getD [])
  intro i places
  induction places generalizing i with
  | nil => rfl
  | cons place rest ih => rw [branchesFrom, List.map_cons, ih (i + 1)]

theorem Schema.mem_allOf_of_mem_branches {s : Schema} {location : String} {b : Branch}
    (h : b ∈ s.branches location) : b.place ∈ s.allOf.getD [] := by
  rw [← s.map_place_branches location]
  exact List.mem_map_of_mem h

namespace Document

variable {d : Document} {s t : Schema} {location name : String} {met left : List String}
  {branches : List Branch} {found : List Ancestor}

/-! ## Parents -/

/-- The schema that a place shows: the one that stands there, or the target of the reference. -/
def Shows (d : Document) : RefOr Schema → Schema → Prop
  | .inline s, t => s = t
  | .ref r, t => d.resolve Schema r = .ok t

/-- One of the branches of the first schema shows the second. -/
def IsParent (d : Document) (s t : Schema) : Prop :=
  ∃ place ∈ s.allOf.getD [], d.Shows place t

/-- A condition on places that passes on to what lies above them. -/
structure Upward (d : Document) (R : RefOr Schema → Prop) : Prop where
  branch : ∀ s, R (.inline s) → ∀ place ∈ s.allOf.getD [], R place
  target : ∀ r s, R (.ref r) → d.resolve Schema r = .ok s → R (.inline s)

/-! ## Depth first -/

/-- What a depth-first search finds above some branches, and the texts of the references that it has
then met. Everything above a branch comes before the next branch. A reference is looked into when its
text is met for the first time, and leads nowhere if it does not resolve. -/
inductive Visits (d : Document) : (met : List String) → List Branch → List Ancestor →
    (left : List String) → Prop
  | done met : Visits d met [] [] met
  | inline {met mid left s location rest above beside}
      (habove : Visits d met (s.branches location) above mid) (hbeside : Visits d mid rest beside left) :
      Visits d met (⟨.inline s, location⟩ :: rest) (⟨s, location⟩ :: above ++ beside) left
  | target {met mid left r s location rest above beside}
      (hnew : r.text ∉ met) (hs : d.resolve Schema r = .ok s)
      (habove : Visits d (r.text :: met) (s.branches (locationOf r location)) above mid)
      (hbeside : Visits d mid rest beside left) :
      Visits d met (⟨.ref r, location⟩ :: rest) (⟨s, locationOf r location⟩ :: above ++ beside) left
  | dangling {met left r e location rest beside}
      (hnew : r.text ∉ met) (he : d.resolve Schema r = .error e)
      (hbeside : Visits d (r.text :: met) rest beside left) :
      Visits d met (⟨.ref r, location⟩ :: rest) beside left
  | again {met left r location rest beside}
      (hold : r.text ∈ met) (hbeside : Visits d met rest beside left) :
      Visits d met (⟨.ref r, location⟩ :: rest) beside left

/-- What is true of the branches and passes on upwards is true of everything that is found. -/
theorem Visits.forall_mem (h : d.Visits met branches found left) {R : RefOr Schema → Prop}
    (hR : d.Upward R) (hbranches : ∀ b ∈ branches, R b.place) :
    ∀ a ∈ found, R (.inline a.schema) := by
  induction h with
  | done => exact fun a ha => by cases ha
  | @inline met mid left s location rest above beside _ _ ihabove ihbeside =>
    have hs : R (.inline s) := hbranches _ List.mem_cons_self
    have habove := ihabove fun b hb => hR.branch s hs _ (Schema.mem_allOf_of_mem_branches hb)
    have hbeside := ihbeside fun b hb => hbranches b (List.mem_cons_of_mem _ hb)
    simp only [List.cons_append, List.forall_mem_cons, List.forall_mem_append]
    exact ⟨hs, habove, hbeside⟩
  | @target met mid left r s location rest above beside _ hs _ _ ihabove ihbeside =>
    have hs : R (.inline s) := hR.target r s (hbranches _ List.mem_cons_self) hs
    have habove := ihabove fun b hb => hR.branch s hs _ (Schema.mem_allOf_of_mem_branches hb)
    have hbeside := ihbeside fun b hb => hbranches b (List.mem_cons_of_mem _ hb)
    simp only [List.cons_append, List.forall_mem_cons, List.forall_mem_append]
    exact ⟨hs, habove, hbeside⟩
  | dangling _ _ _ ih | again _ _ ih =>
    exact ih fun b hb => hbranches b (List.mem_cons_of_mem _ hb)

/-- The branches and what was met before determine what is found and what is met. -/
theorem Visits.unique (h : d.Visits met branches found left) {found' : List Ancestor}
    {left' : List String} (h' : d.Visits met branches found' left') :
    found' = found ∧ left' = left := by
  induction h generalizing found' left' with
  | done met =>
    cases h'
    exact ⟨rfl, rfl⟩
  | inline _ _ ihabove ihbeside =>
    cases h' with
    | inline habove hbeside =>
      obtain ⟨rfl, rfl⟩ := ihabove habove
      obtain ⟨rfl, rfl⟩ := ihbeside hbeside
      exact ⟨rfl, rfl⟩
  | target hnew hs _ _ ihabove ihbeside =>
    cases h' with
    | target _ hs' habove hbeside =>
      cases hs.symm.trans hs'
      obtain ⟨rfl, rfl⟩ := ihabove habove
      obtain ⟨rfl, rfl⟩ := ihbeside hbeside
      exact ⟨rfl, rfl⟩
    | dangling _ he _ => cases hs.symm.trans he
    | again hold _ => exact absurd hold hnew
  | dangling hnew he _ ih =>
    cases h' with
    | target _ hs _ _ => cases he.symm.trans hs
    | dangling _ _ hbeside => exact ih hbeside
    | again hold _ => exact absurd hold hnew
  | again hold _ ih =>
    cases h' with
    | target hnew _ _ _ => exact absurd hold hnew
    | dangling hnew _ _ => exact absurd hold hnew
    | again _ hbeside => exact ih hbeside

/-- The place is one of the branches, lies right above something found, or is a reference that was met
in the end. -/
def Touches (branches : List Branch) (found : List Ancestor) (left : List String)
    (place : RefOr Schema) : Prop :=
  (∃ b ∈ branches, b.place = place) ∨ (∃ a ∈ found, place ∈ a.schema.allOf.getD []) ∨
    ∃ r, place = .ref r ∧ r.text ∈ left

/-- What the place shows is found, or the place is a reference that was met before. -/
def Accounts (found : List Ancestor) (met : List String) (place : RefOr Schema) (t : Schema) : Prop :=
  (∃ a ∈ found, a.schema = t) ∨ ∃ r, place = .ref r ∧ r.text ∈ met

theorem touches_cons {b : Branch} {place : RefOr Schema} :
    Touches (b :: branches) found left place ↔
      b.place = place ∨ Touches branches found left place := by
  simp only [Touches, List.mem_cons, exists_eq_or_imp, or_assoc]

/-- A reference is determined by its text, so only one more is accounted for when its text is met. -/
theorem Accounts.of_cons {r : Ref} {place : RefOr Schema}
    (h : Accounts found (r.text :: met) place t) : place = .ref r ∨ Accounts found met place t := by
  rcases h with hfound | ⟨⟨text⟩, rfl, hr⟩
  · exact .inr (.inl hfound)
  · rcases List.mem_cons.1 hr with rfl | hr
    · exact .inl rfl
    · exact .inr (.inr ⟨⟨text⟩, rfl, hr⟩)

/-- A search that is complete above a schema, and then beside it, is complete with the schema. -/
theorem accounts_cons {mid rest above beside place}
    (habove : ∀ place t, Touches (s.branches location) above mid place → d.Shows place t →
      Accounts above met place t)
    (hbeside : ∀ place t, Touches rest beside left place → d.Shows place t →
      Accounts beside mid place t)
    (hplace : Touches rest (⟨s, location⟩ :: above ++ beside) left place) (ht : d.Shows place t) :
    Accounts (⟨s, location⟩ :: above ++ beside) met place t := by
  have hup : Touches (s.branches location) above mid place →
      Accounts (⟨s, location⟩ :: above ++ beside) met place t := by
    intro h
    rcases habove place t h ht with ⟨a, ha, rfl⟩ | hmet
    · exact .inl ⟨a, List.mem_cons_of_mem _ (List.mem_append_left _ ha), rfl⟩
    · exact .inr hmet
  have hside : Touches rest beside left place →
      Accounts (⟨s, location⟩ :: above ++ beside) met place t := by
    intro h
    rcases hbeside place t h ht with ⟨a, ha, rfl⟩ | hmid
    · exact .inl ⟨a, List.mem_cons_of_mem _ (List.mem_append_right _ ha), rfl⟩
    · -- It was met before the search went beside: above the schema, or earlier.
      exact hup (.inr (.inr hmid))
  rcases hplace with hrest | ⟨a, ha, hplace⟩ | hleft
  · exact hside (.inl hrest)
  · rw [List.cons_append, List.mem_cons, List.mem_append] at ha
    rcases ha with rfl | ha | ha
    · rw [← s.map_place_branches location] at hplace
      exact hup (.inl (List.mem_map.1 hplace))
    · exact hup (.inr (.inl ⟨a, ha, hplace⟩))
    · exact hside (.inr (.inl ⟨a, ha, hplace⟩))
  · exact hside (.inr (.inr hleft))

/-- The search finds what every place shows that it touches, apart from references that were met
before. -/
theorem Visits.accounts (h : d.Visits met branches found left) {place : RefOr Schema}
    (hplace : Touches branches found left place) (ht : d.Shows place t) :
    Accounts found met place t := by
  induction h generalizing place t with
  | done met =>
    rcases hplace with ⟨b, hb, _⟩ | ⟨a, ha, _⟩ | hmet
    · cases hb
    · cases ha
    · exact .inr hmet
  | inline _ _ ihabove ihbeside =>
    rcases touches_cons.1 hplace with rfl | hplace
    · exact .inl ⟨_, List.mem_cons_self, ht⟩
    · exact accounts_cons (fun _ _ => ihabove) (fun _ _ => ihbeside) hplace ht
  | target _ hs _ _ ihabove ihbeside =>
    -- The reference shows the schema that it resolves to, wherever it stands.
    rcases touches_cons.1 hplace with rfl | hplace
    · exact .inl ⟨_, List.mem_cons_self, Except.ok.inj (hs.symm.trans ht)⟩
    · have h := accounts_cons (fun _ _ => ihabove) (fun _ _ => ihbeside) hplace ht
      rcases h.of_cons with rfl | h
      · exact .inl ⟨_, List.mem_cons_self, Except.ok.inj (hs.symm.trans ht)⟩
      · exact h
  | dangling _ he _ ih =>
    -- A reference that does not resolve shows nothing.
    rcases touches_cons.1 hplace with rfl | hplace
    · cases he.symm.trans ht
    · rcases (ih hplace ht).of_cons with rfl | h
      · cases he.symm.trans ht
      · exact h
  | again hold _ ih =>
    rcases touches_cons.1 hplace with rfl | hplace
    · exact .inr ⟨_, rfl, hold⟩
    · exact ih hplace ht

/-! ## The search as a stack -/

theorem mem_without {texts : List String} {text other : String} :
    other ∈ without texts text ↔ other ∈ texts ∧ other ≠ text := by
  rw [without, List.mem_filter, decide_eq_true_iff]

/-- Texts are unmet exactly if they are not met, as far as references of a kind are concerned. -/
def Unmet (R : RefOr Schema → Prop) (unmet met : List String) : Prop :=
  ∀ r, R (.ref r) → (r.text ∈ unmet ↔ r.text ∉ met)

theorem Unmet.meet {R : RefOr Schema → Prop} {unmet : List String} (h : Unmet R unmet met)
    (text : String) : Unmet R (without unmet text) (text :: met) := by
  intro r hr
  rw [mem_without, h r hr, List.mem_cons, not_or, and_comm]

/-- A stack of branches is searched depth first, one branch after the other: what lies above the first
branch is found before anything else on the stack is looked at. -/
theorem exists_visits {R : RefOr Schema → Prop} (hR : d.Upward R) (unmet met : List String)
    (branches : List Branch) (hbranches : ∀ b ∈ branches, R b.place) (hunmet : Unmet R unmet met) :
    ∃ found left unmet', d.Visits met branches found left ∧ Unmet R unmet' left ∧
      unmet'.length ≤ unmet.length ∧
      ∀ more, d.visit unmet (branches ++ more) = found ++ d.visit unmet' more := by
  match branches with
  | [] => exact ⟨[], met, unmet, .done met, hunmet, Nat.le_refl _, fun more => rfl⟩
  | ⟨.inline s, location⟩ :: rest =>
    have hs : R (.inline s) := hbranches _ List.mem_cons_self
    have hsize := work_branches s location
    -- The branches of the schema are put on the stack before the rest.
    obtain ⟨above, mid, unmet₁, habove, hunmet₁, hle₁, hvisit₁⟩ :=
      exists_visits hR unmet met (s.branches location)
        (fun b hb => hR.branch s hs _ (Schema.mem_allOf_of_mem_branches hb)) hunmet
    obtain ⟨beside, left, unmet₂, hbeside, hunmet₂, hle₂, hvisit₂⟩ :=
      exists_visits hR unmet₁ mid rest (fun b hb => hbranches b (List.mem_cons_of_mem _ hb)) hunmet₁
    refine ⟨_, left, unmet₂, .inline habove hbeside, hunmet₂, by omega, fun more => ?_⟩
    rw [List.cons_append, visit, hvisit₁, hvisit₂]
    simp
  | ⟨.ref r, location⟩ :: rest =>
    have hr : R (.ref r) := hbranches _ List.mem_cons_self
    have hrest : ∀ b ∈ rest, R b.place := fun b hb => hbranches b (List.mem_cons_of_mem _ hb)
    by_cases hmem : r.text ∈ unmet
    · have hlt := length_without_lt hmem
      have hnew := (hunmet r hr).1 hmem
      cases hs : d.resolve Schema r with
      | error e =>
        obtain ⟨beside, left, unmet₁, hbeside, hunmet₁, hle₁, hvisit₁⟩ :=
          exists_visits hR (without unmet r.text) (r.text :: met) rest hrest (hunmet.meet r.text)
        refine ⟨_, left, unmet₁, .dangling hnew hs hbeside, hunmet₁, by omega, fun more => ?_⟩
        rw [List.cons_append, visit, dif_pos hmem, hs]
        exact hvisit₁ more
      | ok s =>
        obtain ⟨above, mid, unmet₁, habove, hunmet₁, hle₁, hvisit₁⟩ :=
          exists_visits hR (without unmet r.text) (r.text :: met) (s.branches (locationOf r location))
            (fun b hb => hR.branch s (hR.target r s hr hs) _ (Schema.mem_allOf_of_mem_branches hb))
            (hunmet.meet r.text)
        obtain ⟨beside, left, unmet₂, hbeside, hunmet₂, hle₂, hvisit₂⟩ :=
          exists_visits hR unmet₁ mid rest hrest hunmet₁
        refine ⟨_, left, unmet₂, .target hnew hs habove hbeside, hunmet₂, by omega, fun more => ?_⟩
        rw [List.cons_append, visit, dif_pos hmem, hs]
        show _ :: d.visit (without unmet r.text)
          (s.branches (locationOf r location) ++ (rest ++ more)) = _
        rw [hvisit₁, hvisit₂]
        simp
    · have hold : r.text ∈ met := by
        by_cases h : r.text ∈ met
        · exact h
        · exact absurd ((hunmet r hr).2 h) hmem
      obtain ⟨beside, left, unmet₁, hbeside, hunmet₁, hle₁, hvisit₁⟩ :=
        exists_visits hR unmet met rest hrest hunmet
      refine ⟨_, left, unmet₁, .again hold hbeside, hunmet₁, hle₁, fun more => ?_⟩
      rw [List.cons_append, visit, dif_neg hmem]
      exact hvisit₁ more
termination_by (unmet.length, work branches)
decreasing_by
  all_goals
    rw [Prod.lex_def]
    simp only [work, RefOr.inline.sizeOf_spec, true_and]
    omega

/-! ## Ancestors -/

/-- The places that the search for the ancestors of a schema can come to: those in the schema, and
those of the document. -/
def Near (d : Document) (s : Schema) : RefOr Schema → Prop
  | .inline t => t ∈ s.nested ∨ d.HasPlace (.inline t)
  | .ref r => r ∈ Schema.references (.inline s) ∨ d.HasPlace (.ref r)

theorem near_of_mem_allOf {place : RefOr Schema} (hs : t ∈ s.nested)
    (hplace : place ∈ t.allOf.getD []) : d.Near s place := by
  have hparts : place ∈ t.parts := Schema.mem_parts_of_allOf hplace
  cases place with
  | inline u => exact .inl (Schema.mem_nested_of_mem_parts hs hparts)
  | ref r =>
    refine .inl (List.mem_append_right _ (List.mem_flatMap.2 ⟨t, ?_, ?_⟩))
    · exact Schema.mem_nestedPlace_inline.2 hs
    · exact List.mem_filterMap.2 ⟨_, hparts, rfl⟩

theorem upward_near (d : Document) (s : Schema) : d.Upward (d.Near s) where
  branch t ht place hplace := by
    rcases ht with ht | ht
    · exact near_of_mem_allOf ht hplace
    · have hparts : d.HasPlace place := ht.parts (Schema.mem_parts_of_allOf hplace)
      cases place with
      | inline u => exact .inr hparts
      | ref r => exact .inr hparts
  target _ _ _ ht := .inr (hasPlace_of_resolve ht)

/-- The ancestors of a schema are found depth first. -/
theorem visits_ancestors (d : Document) (s : Schema) (location : String) :
    ∃ left, d.Visits [] (s.branches location) (d.ancestors s location) left := by
  have hunmet : Unmet (d.Near s)
      ((Schema.references (.inline s) ++ d.references).map (·.text)) [] := by
    intro r hr
    have hmem : r ∈ Schema.references (.inline s) ++ d.references :=
      List.mem_append.2 (hr.imp_right HasPlace.mem_references)
    exact iff_of_true (List.mem_map_of_mem hmem) (by simp)
  obtain ⟨found, left, unmet', hvisits, -, -, hvisit⟩ :=
    exists_visits (d.upward_near s) _ [] (s.branches location)
      (fun b hb => near_of_mem_allOf (Schema.mem_nested_iff.2 (.inl rfl))
        (Schema.mem_allOf_of_mem_branches hb)) hunmet
  have hfound : d.ancestors s location = found := by
    have h := hvisit []
    rwa [List.append_nil, visit, List.append_nil] at h
  exact ⟨left, hfound ▸ hvisits⟩

/-- Among the ancestors are exactly the schemas that one or more steps to a parent lead to. -/
theorem exists_mem_ancestors_iff :
    (∃ a ∈ d.ancestors s location, a.schema = t) ↔ Relation.TransGen d.IsParent s t := by
  obtain ⟨left, hvisits⟩ := d.visits_ancestors s location
  constructor
  · rintro ⟨a, ha, rfl⟩
    -- Whatever a place shows is an ancestor, and so is what its parents show.
    have hup : d.Upward fun place => ∀ t, d.Shows place t → Relation.TransGen d.IsParent s t := by
      refine ⟨fun u hu place hplace t ht => ?_, fun r u hr hu t ht => ?_⟩
      · exact (hu u rfl).tail ⟨place, hplace, ht⟩
      · subst ht
        exact hr u hu
    refine hvisits.forall_mem hup (fun b hb t ht => ?_) a ha a.schema rfl
    exact .single ⟨b.place, Schema.mem_allOf_of_mem_branches hb, ht⟩
  · intro h
    have hfound : ∀ {place u}, Touches (s.branches location) (d.ancestors s location) left place →
        d.Shows place u → ∃ a ∈ d.ancestors s location, a.schema = u := by
      intro place u hplace hu
      rcases hvisits.accounts hplace hu with hfound | ⟨r, -, hr⟩
      · exact hfound
      · cases hr
    induction h with
    | single h =>
      obtain ⟨place, hplace, ht⟩ := h
      rw [← s.map_place_branches location] at hplace
      exact hfound (.inl (List.mem_map.1 hplace)) ht
    | tail _ h ih =>
      obtain ⟨a, ha, rfl⟩ := ih
      obtain ⟨place, hplace, ht⟩ := h
      exact hfound (.inr (.inl ⟨a, ha, hplace⟩)) ht

/-! ## Inherited properties -/

/-- The ancestor is the first, depth first and in the order of the branches, that declares a property
of the name, and declares it at the place. -/
def FirstDeclares (d : Document) (s : Schema) (location name : String) (a : Ancestor)
    (place : RefOr Schema) : Prop :=
  ∃ earlier later left, d.Visits [] (s.branches location) (earlier ++ a :: later) left ∧
    (∀ b ∈ earlier, b.schema.property? name = none) ∧ a.schema.property? name = some place

theorem firstDeclares_of_inheritedProperty? {inherited : Inherited}
    (h : d.inheritedProperty? s location name = some inherited) :
    ∃ a, d.FirstDeclares s location name a inherited.property ∧
      inherited.location = a.location ++ "/properties/" ++ Pointer.escape name := by
  obtain ⟨left, hvisits⟩ := d.visits_ancestors s location
  obtain ⟨earlier, a, later, hsplit, ha, hearlier⟩ := List.findSome?_eq_some_iff.1 h
  obtain ⟨place, hplace, rfl⟩ := Option.map_eq_some_iff.1 ha
  refine ⟨a, ⟨earlier, later, left, hsplit ▸ hvisits, ?_, hplace⟩, rfl⟩
  intro b hb
  exact Option.map_eq_none_iff.1 (hearlier b hb)

/-- A property that some ancestor declares is found. -/
theorem isSome_inheritedProperty? (ht : Relation.TransGen d.IsParent s t)
    (hname : (t.property? name).isSome = true) :
    (d.inheritedProperty? s location name).isSome = true := by
  have hmem : ∃ a ∈ d.ancestors s location, a.schema = t := exists_mem_ancestors_iff.2 ht
  obtain ⟨a, ha, rfl⟩ := hmem
  refine List.findSome?_isSome_iff.2 ⟨a, ha, ?_⟩
  rwa [Option.isSome_map]

end Document

end ApiShape
