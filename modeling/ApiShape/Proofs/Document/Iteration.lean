import ApiShape.Proofs.Document.Ancestors

/-!
# Iterating over ancestors

The ancestors of a schema can be had one at a time, with a stack of the branches to come and the texts
of the references met so far. Branch after branch is taken from the stack until it is empty, which it is
in the end even if the hierarchy loops. What comes out on the way is what lies above the schema, every
branch with all that lies above it before the next.
-/

namespace ApiShape.Document

variable {d : Document} {s : Schema} {location name : String} {met left : List String}
  {branches : List Branch} {found : List Ancestor}

/-! ## A stack of branches -/

/-- The branches to come, the next one first, and the texts of the references met so far. -/
structure Search where
  stack : List Branch
  met : List String

namespace Search

/-- Takes the next branch from the stack. A schema that the branch shows is an ancestor, and its own
branches come next. A reference shows nothing if its text was met before or if it does not resolve. -/
def pop? (d : Document) : Search → Option (Option Ancestor × Search)
  | ⟨[], _⟩ => none
  | ⟨⟨.inline s, location⟩ :: rest, met⟩ =>
    some (some ⟨s, location⟩, ⟨s.branches location ++ rest, met⟩)
  | ⟨⟨.ref r, location⟩ :: rest, met⟩ =>
    if r.text ∈ met then some (none, ⟨rest, met⟩)
    else
      match d.resolve Schema r with
      | .error _ => some (none, ⟨rest, r.text :: met⟩)
      | .ok s =>
        let location := locationOf r location
        some (some ⟨s, location⟩, ⟨s.branches location ++ rest, r.text :: met⟩)

/-- Branches are taken from the stack until there is none left, and the ancestors come out in order. -/
inductive Exhausts (d : Document) : Search → List Ancestor → Search → Prop
  | done {search : Search} (h : search.pop? d = none) : Exhausts d search [] search
  | find {search next last : Search} {a : Ancestor} {later : List Ancestor}
      (h : search.pop? d = some (some a, next)) (hlater : Exhausts d next later last) :
      Exhausts d search (a :: later) last
  | skip {search next last : Search} {later : List Ancestor}
      (h : search.pop? d = some (none, next)) (hlater : Exhausts d next later last) :
      Exhausts d search later last

variable {rest : List Branch} {r : Ref} {later : List Ancestor} {last : Search}

theorem Exhausts.inline
    (h : Exhausts d ⟨s.branches location ++ rest, met⟩ later last) :
    Exhausts d ⟨⟨.inline s, location⟩ :: rest, met⟩ (⟨s, location⟩ :: later) last :=
  .find rfl h

theorem Exhausts.target (hnew : r.text ∉ met) (hs : d.resolve Schema r = .ok s)
    (h : Exhausts d ⟨s.branches (locationOf r location) ++ rest, r.text :: met⟩ later last) :
    Exhausts d ⟨⟨.ref r, location⟩ :: rest, met⟩ (⟨s, locationOf r location⟩ :: later) last := by
  refine .find ?_ h
  rw [pop?, if_neg hnew, hs]

theorem Exhausts.dangling {e : UnresolvedReason} (hnew : r.text ∉ met)
    (he : d.resolve Schema r = .error e) (h : Exhausts d ⟨rest, r.text :: met⟩ later last) :
    Exhausts d ⟨⟨.ref r, location⟩ :: rest, met⟩ later last := by
  refine .skip ?_ h
  rw [pop?, if_neg hnew, he]

theorem Exhausts.again (hold : r.text ∈ met) (h : Exhausts d ⟨rest, met⟩ later last) :
    Exhausts d ⟨⟨.ref r, location⟩ :: rest, met⟩ later last := by
  refine .skip ?_ h
  rw [pop?, if_pos hold]

end Search

/-- A stack is worked off depth first: what lies above the branches on top comes out before anything
that is below them on the stack is looked at. -/
theorem Visits.exhausts (h : d.Visits met branches found left) {more : List Branch}
    {later : List Ancestor} {last : Search} (hmore : Search.Exhausts d ⟨more, left⟩ later last) :
    Search.Exhausts d ⟨branches ++ more, met⟩ (found ++ later) last := by
  induction h generalizing more later with
  | done met => exact hmore
  | inline _ _ ihabove ihbeside =>
    simp only [List.cons_append, List.append_assoc]
    exact .inline (ihabove (ihbeside hmore))
  | target hnew hs _ _ ihabove ihbeside =>
    simp only [List.cons_append, List.append_assoc]
    exact .target hnew hs (ihabove (ihbeside hmore))
  | dangling hnew he _ ih => exact .dangling hnew he (ih hmore)
  | again hold _ ih => exact .again hold (ih hmore)

/-! ## Ancestors in order -/

/-- The ancestors are what a depth-first search finds, and a search has no other outcome. -/
theorem exists_visits_iff (d : Document) (s : Schema) (location : String) :
    ∃ left, ∀ found left', d.Visits [] (s.branches location) found left' ↔
      found = d.ancestors s location ∧ left' = left := by
  obtain ⟨left, hvisits⟩ := d.visits_ancestors s location
  refine ⟨left, fun found left' => ⟨fun h => hvisits.unique h, ?_⟩⟩
  rintro ⟨rfl, rfl⟩
  exact hvisits

theorem FirstDeclares.exists_split {a : Ancestor} {place : RefOr Schema}
    (h : d.FirstDeclares s location name a place) :
    ∃ earlier later, d.ancestors s location = earlier ++ a :: later ∧
      (∀ b ∈ earlier, b.schema.property? name = none) ∧ a.schema.property? name = some place := by
  obtain ⟨earlier, later, left, hvisits, hrest⟩ := h
  obtain ⟨left', hiff⟩ := exists_visits_iff d s location
  exact ⟨earlier, later, ((hiff _ _).1 hvisits).1.symm, hrest⟩

/-- A property is taken over from the first ancestor, depth first and in the order of the branches, that
declares it. -/
theorem inheritedProperty?_eq_some_iff {inherited : Inherited} :
    d.inheritedProperty? s location name = some inherited ↔
      ∃ a place, d.FirstDeclares s location name a place ∧
        inherited = ⟨place, a.location ++ "/properties/" ++ Pointer.escape name⟩ := by
  constructor
  · intro h
    obtain ⟨a, hfirst, hlocation⟩ := firstDeclares_of_inheritedProperty? h
    refine ⟨a, inherited.property, hfirst, ?_⟩
    rw [← hlocation]
  · rintro ⟨a, place, hfirst, rfl⟩
    obtain ⟨earlier, later, hsplit, hearlier, hplace⟩ := hfirst.exists_split
    rw [inheritedProperty?, hsplit]
    refine List.findSome?_eq_some_iff.2 ⟨earlier, a, later, rfl, ?_, fun b hb => ?_⟩
    · rw [hplace]
      rfl
    · rw [hearlier b hb]
      rfl

theorem isSome_inheritedProperty?_iff :
    (d.inheritedProperty? s location name).isSome = true ↔
      ∃ t, Relation.TransGen d.IsParent s t ∧ (t.property? name).isSome = true := by
  constructor
  · intro h
    obtain ⟨inherited, hinherited⟩ := Option.isSome_iff_exists.1 h
    obtain ⟨a, place, hfirst, -⟩ := inheritedProperty?_eq_some_iff.1 hinherited
    obtain ⟨earlier, later, hsplit, -, hplace⟩ := hfirst.exists_split
    have ha : a ∈ d.ancestors s location := by
      rw [hsplit]
      exact List.mem_append_right _ List.mem_cons_self
    refine ⟨a.schema, exists_mem_ancestors_iff.1 ⟨a, ha, rfl⟩, ?_⟩
    rw [hplace]
    rfl
  · rintro ⟨t, ht, hname⟩
    exact isSome_inheritedProperty? ht hname

/-- Iterating over the ancestors of a schema comes to an end. What comes out is what a depth-first search
finds: every branch before the next, a reference only where its text is met for the first time, and
nothing for a reference that does not resolve. So it is what one or more steps to a parent lead to, and a
property is taken over if any of these declares it, from the first that does. -/
theorem ancestors_depthFirst (d : Document) (s : Schema) (location : String) :
    (∃ left, Search.Exhausts d ⟨s.branches location, []⟩ (d.ancestors s location) ⟨[], left⟩ ∧
      ∀ found left', d.Visits [] (s.branches location) found left' ↔
        found = d.ancestors s location ∧ left' = left) ∧
    (∀ t, (∃ a ∈ d.ancestors s location, a.schema = t) ↔ Relation.TransGen d.IsParent s t) ∧
    ∀ name,
      ((d.inheritedProperty? s location name).isSome = true ↔
        ∃ t, Relation.TransGen d.IsParent s t ∧ (t.property? name).isSome = true) ∧
      ∀ inherited, d.inheritedProperty? s location name = some inherited ↔
        ∃ a place, d.FirstDeclares s location name a place ∧
          inherited = ⟨place, a.location ++ "/properties/" ++ Pointer.escape name⟩ := by
  refine ⟨?_, fun t => exists_mem_ancestors_iff, fun name =>
    ⟨isSome_inheritedProperty?_iff, fun inherited => inheritedProperty?_eq_some_iff⟩⟩
  obtain ⟨left, hiff⟩ := exists_visits_iff d s location
  have hvisits : d.Visits [] (s.branches location) (d.ancestors s location) left :=
    (hiff _ _).2 ⟨rfl, rfl⟩
  have hend : Search.Exhausts d ⟨[], left⟩ [] ⟨[], left⟩ := .done rfl
  have hrun := hvisits.exhausts hend
  rw [List.append_nil, List.append_nil] at hrun
  exact ⟨left, hrun, hiff⟩

end ApiShape.Document
