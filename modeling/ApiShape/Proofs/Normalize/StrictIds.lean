import ApiShape.Proofs.Normalize.OperationIds

/-!
# Strict operation IDs

A normalization that insists on different operation IDs goes like one that renames them, up to the
first operation that would be renamed, where it fails. So it has a result exactly if nothing is
renamed, and its error names the two operations that have the ID first.
-/

namespace ApiShape

/-- The configuration, with operation IDs that must be different. -/
def Config.strict (config : Config) : Config :=
  { config with strictOperationIds := true }

namespace Document

/-- The operation in its place, with IDs that must be different. -/
def Site.strict (s : Site) : Site :=
  { s with config := s.config.strict }

/-! Nothing but the choice of IDs depends on whether they must be different. -/

theorem Site.parameters_strict (s : Site) (merged : List Site.Located) :
    s.strict.parameters merged = s.parameters merged := by
  induction merged with
  | nil => rfl
  | cons p rest ih =>
    have hnode : s.strict.parameterNode p = s.parameterNode p := rfl
    rw [Site.parameters, Site.parameters, ih, hnode]

theorem Site.normalize_strict (s : Site) (id : String) :
    s.strict.normalize id = s.normalize id := by
  have hparameters : s.strict.parameters = s.parameters := funext s.parameters_strict
  unfold Site.normalize
  rw [hparameters]
  rfl

theorem sitesFrom_strict (d : Document) (config : Config) (paths : List (String × PathItem)) :
    d.sitesFrom config.strict paths = (d.sitesFrom config paths).map Site.strict := by
  unfold sitesFrom sites
  rw [List.map_flatMap]
  simp only [List.map_map]
  rfl

/-! ## Up to the first repetition -/

/-- The second, strict run is the first, which renames nothing; or else the first renames something,
and the strict run has failed for that. -/
def Progress.IsStrictly (p q : Progress) : Prop :=
  (duplicates p.report.diagnostics = [] ∧ q = p) ∨
    (duplicates p.report.diagnostics ≠ [] ∧
      ∃ id first second, q.report.result = .error (.duplicateOperationId id first second))

/-- A raw ID that is taken ends a strict run, with the operation that took it first. -/
theorem Site.attempt_strict_of_lookup {s : Site} {taken : TakenIds} {first : String}
    (h : taken.lookup s.rawId = some first) :
    (do s.strict.normalize (← s.strict.chooseId taken) : Report NormalizeError Model.Operation) =
      .fail (.duplicateOperationId s.rawId first s.label) := by
  have hchosen : s.strict.chooseId taken =
      .fail (.duplicateOperationId s.rawId first s.label) := by
    unfold chooseId
    have hraw : s.strict.rawId = s.rawId := rfl
    dsimp only
    rw [hraw, h]
    rfl
  rw [hchosen]
  rfl

theorem Site.attempt_strict_of_notMem {s : Site} {taken : TakenIds}
    (h : s.rawId ∉ taken.map (·.1)) :
    (do s.strict.normalize (← s.strict.chooseId taken) : Report NormalizeError Model.Operation) =
      s.normalize s.rawId := by
  have hraw : s.strict.rawId = s.rawId := rfl
  rw [s.strict.attempt_of_notMem h, hraw, s.normalize_strict]

theorem exists_lookup {taken : TakenIds} {id : String} (h : id ∈ taken.map (·.1)) :
    ∃ first, taken.lookup id = some first := by
  rw [← Option.ne_none_iff_exists']
  exact fun hnone => lookup_eq_none_iff.1 hnone h

/-- As long as nothing is renamed, both runs also take the same IDs. -/
theorem normalizeSites_strict {sites : List Site}
    (hlenient : ∀ s ∈ sites, s.config.strictOperationIds = false) (taken : TakenIds) :
    (normalizeSites taken sites).1.IsStrictly (normalizeSites taken (sites.map Site.strict)).1 ∧
      (duplicates (normalizeSites taken sites).1.report.diagnostics = [] →
        (normalizeSites taken (sites.map Site.strict)).2 = (normalizeSites taken sites).2) := by
  induction sites generalizing taken with
  | nil => exact ⟨.inl ⟨rfl, rfl⟩, fun _ => rfl⟩
  | cons s rest ih =>
    rw [List.map_cons, normalizeSites, normalizeSites]
    have hlabel : s.strict.label = s.label := rfl
    by_cases hmem : s.rawId ∈ taken.map (·.1)
    · obtain ⟨message, hattempt⟩ := s.attempt_of_mem (hlenient s List.mem_cons_self) hmem
      obtain ⟨first, hfirst⟩ := exists_lookup hmem
      dsimp only
      rw [hattempt, Site.attempt_strict_of_lookup hfirst]
      -- The lenient run has recorded the repetition, whatever comes of it.
      have hrecorded : ∀ {x : Diagnostic} {xs : List Diagnostic}, x.kind = .duplicateOperationId →
          duplicates (x :: xs) ≠ [] := by
        intro x xs hx h
        rw [duplicates_eq_nil_iff] at h
        exact h x List.mem_cons_self hx
      cases (s.normalize (freshId taken s.rawId)).result with
      | error e => exact ⟨.inr ⟨hrecorded rfl, _, _, _, rfl⟩, fun h => absurd h (hrecorded rfl)⟩
      | ok o => exact ⟨.inr ⟨hrecorded rfl, _, _, _, rfl⟩, fun h => absurd h (hrecorded rfl)⟩
    · have hown := s.duplicates_normalize s.rawId
      dsimp only
      rw [s.attempt_of_notMem hmem, Site.attempt_strict_of_notMem hmem, hlabel]
      cases (s.normalize s.rawId).result with
      | error e => exact ⟨.inl ⟨hown, rfl⟩, fun _ => rfl⟩
      | ok o =>
        obtain ⟨hrest, htaken⟩ := ih (fun t ht => hlenient t (List.mem_cons_of_mem _ ht))
          ((o.id, s.label) :: taken)
        dsimp only
        unfold Progress.IsStrictly
        dsimp only
        rw [duplicates_append, hown, List.nil_append]
        refine ⟨?_, htaken⟩
        rcases hrest with ⟨hnone, hsame⟩ | ⟨hsome, hfailed⟩
        · exact .inl ⟨hnone, by rw [hsame]⟩
        · exact .inr ⟨hsome, hfailed⟩

theorem Progress.IsStrictly.followedBy {p p' q q' : Progress} (h : p.IsStrictly p')
    (hnext : duplicates p.report.diagnostics = [] → q.IsStrictly q') :
    (p.followedBy q).IsStrictly (p'.followedBy q') := by
  obtain ⟨operations, diagnostics, result⟩ := p
  rcases h with ⟨hnone, rfl⟩ | ⟨hsome, id, first, second, hfailed⟩
  · -- Up to here the runs are the same, so they differ only where the next ones do.
    dsimp only at hnone hnext
    cases result with
    | error e => exact .inl ⟨hnone, rfl⟩
    | ok _ =>
      unfold Progress.followedBy IsStrictly
      dsimp only
      rw [duplicates_append, hnone, List.nil_append]
      rcases hnext hnone with ⟨hnone, rfl⟩ | hfailed
      · exact .inl ⟨hnone, rfl⟩
      · exact .inr hfailed
  · -- The strict run goes no further, and what the other has recorded stays recorded.
    right
    constructor
    · dsimp only at hsome
      cases result with
      | error e => exact hsome
      | ok _ =>
        unfold Progress.followedBy
        dsimp only
        rw [duplicates_append]
        exact fun h => hsome (List.append_eq_nil_iff.1 h).1
    · refine ⟨id, first, second, ?_⟩
      unfold Progress.followedBy
      rw [hfailed]
      exact hfailed

theorem normalizePathsFrom_strict (d : Document) {config : Config}
    (hlenient : config.strictOperationIds = false) (taken : TakenIds)
    (paths : List (String × PathItem)) :
    (d.normalizePathsFrom config taken paths).IsStrictly
      (d.normalizePathsFrom config.strict taken paths) := by
  induction paths generalizing taken with
  | nil => exact .inl ⟨rfl, rfl⟩
  | cons e rest ih =>
    obtain ⟨path, item⟩ := e
    have hsites : d.sites config.strict path item (templateParams path) =
        (d.sites config path item (templateParams path)).map Site.strict := by
      unfold sites
      rw [List.map_map]
      rfl
    have hsite : ∀ s ∈ d.sites config path item (templateParams path),
        s.config.strictOperationIds = false := by
      intro s hs
      obtain ⟨x, -, rfl⟩ := List.mem_map.1 hs
      exact hlenient
    rw [normalizePathsFrom_cons, normalizePathsFrom_cons, hsites]
    obtain ⟨hhere, htaken⟩ := normalizeSites_strict hsite taken
    apply Progress.IsStrictly.followedBy (.inl ⟨duplicates_pathParams path, rfl⟩)
    intro _
    apply hhere.followedBy
    intro hnone
    rw [htaken hnone]
    exact ih _

/-! ## The first repetition -/

/-- A strict run that fails for an ID has come to the first operation whose raw ID is taken. -/
theorem exists_of_normalizeSites_strict {taken : TakenIds} {sites : List Site}
    {id first second : String}
    (h : (normalizeSites taken (sites.map Site.strict)).1.report.result =
      .error (.duplicateOperationId id first second)) :
    ∃ before t after, sites = before ++ t :: after ∧ t.rawId = id ∧ t.label = second ∧
      (before.map (·.rawId)).Nodup ∧ (∀ u ∈ before, u.rawId ∉ taken.map (·.1)) ∧
      ((before.map fun u => (u.rawId, u.label)).reverse ++ taken).lookup id = some first := by
  induction sites generalizing taken with
  | nil => cases h
  | cons s rest ih =>
    rw [List.map_cons, normalizeSites] at h
    have hlabel : s.strict.label = s.label := rfl
    by_cases hmem : s.rawId ∈ taken.map (·.1)
    · obtain ⟨first', hfirst⟩ := exists_lookup hmem
      dsimp only at h
      rw [Site.attempt_strict_of_lookup hfirst] at h
      cases h
      exact ⟨[], s, rest, rfl, rfl, rfl, List.nodup_nil, fun _ h => absurd h List.not_mem_nil, hfirst⟩
    · dsimp only at h
      rw [Site.attempt_strict_of_notMem hmem, hlabel] at h
      cases ho : (s.normalize s.rawId).result with
      | error e =>
        -- The operation itself does not fail for its ID.
        rw [ho] at h
        have hplain := (s.confined_normalize allowed_withoutDuplicates
          s.document.confined_withoutDuplicates s.rawId).failed e ho
        exact absurd (Except.error.inj h) (hplain id first second)
      | ok o =>
        rw [ho] at h
        dsimp only at h
        obtain ⟨before, t, after, rfl, hid, hsecond, hnodup, hfree, hlookup⟩ := ih h
        have hsame := (Site.fields_of_normalize ho).1
        refine ⟨s :: before, t, after, rfl, hid, hsecond, ?_, ?_, ?_⟩
        · rw [List.map_cons, List.nodup_cons]
          refine ⟨fun hs => ?_, hnodup⟩
          obtain ⟨u, hu, heq⟩ := List.mem_map.1 hs
          apply hfree u hu
          rw [heq, List.map_cons, hsame]
          exact List.mem_cons_self
        · intro u hu
          rcases List.mem_cons.1 hu with rfl | hu
          · exact hmem
          · exact fun h => hfree u hu (List.mem_cons_of_mem _ h)
        · rw [List.map_cons, List.reverse_cons, List.append_assoc, List.singleton_append, ← hlookup,
            hsame]

/-- Among operations with different raw IDs, the one that an ID is found under is the first. -/
theorem exists_of_lookup {before : List Site} {id first : String}
    (hnodup : (before.map (·.rawId)).Nodup)
    (h : (before.map fun u => (u.rawId, u.label)).reverse.lookup id = some first) :
    ∃ earlier s between, before = earlier ++ s :: between ∧ s.rawId = id ∧ s.label = first ∧
      ∀ u ∈ earlier, u.rawId ≠ id := by
  -- The search starts at the last operation, but no two have one raw ID.
  obtain ⟨l₁, l₂, hsplit, -⟩ := List.lookup_eq_some_iff.1 h
  have hmem : (id, first) ∈ before.map fun u => (u.rawId, u.label) := by
    rw [← List.mem_reverse, hsplit]
    exact List.mem_append_right _ List.mem_cons_self
  obtain ⟨s, hs, heq⟩ := List.mem_map.1 hmem
  cases heq
  obtain ⟨earlier, between, rfl⟩ := List.append_of_mem hs
  refine ⟨earlier, s, between, rfl, rfl, rfl, fun u hu hraw => ?_⟩
  rw [List.map_append, List.nodup_append] at hnodup
  exact hnodup.2.2 _ (List.mem_map_of_mem hu) _ (List.mem_map_of_mem List.mem_cons_self) hraw

/-! ## Documents -/

/-- Insisting on different operation IDs agrees with renaming them. There is a result exactly if there
is one with renaming that has no duplicate to report, and it is the same. If it fails for an ID, the
second operation of the error is the first in document order whose raw ID an earlier one has, and the
first operation of the error is the earliest with this raw ID. -/
theorem normalize_strict_iff (d : Document) (config : Config) :
    (∀ r, d.normalize { config with strictOperationIds := true } = .ok r ↔
      d.normalize { config with strictOperationIds := false } = .ok r ∧
        ∀ x ∈ r.diagnostics, x.kind ≠ .duplicateOperationId) ∧
    ∀ id first second,
      d.normalize { config with strictOperationIds := true } =
        .error (.duplicateOperationId id first second) →
      ∃ before t after, d.operationSites config = before ++ t :: after ∧
        t.rawId = id ∧ t.label = second ∧ (before.map (·.rawId)).Nodup ∧
        ∃ earlier s between, before = earlier ++ s :: between ∧
          s.rawId = id ∧ s.label = first ∧ ∀ u ∈ earlier, u.rawId ≠ id := by
  let lenient : Config := { config with strictOperationIds := false }
  have hstrict : ({ config with strictOperationIds := true } : Config) = lenient.strict := rfl
  have hcomponents : (Session.start d lenient.strict).components d.schemas =
      ({ ((Session.start d lenient).components d.schemas).1 with config := lenient.strict },
        ((Session.start d lenient).components d.schemas).2) :=
    (Session.start d lenient).components_withConfig lenient.strict d.schemas
  have hpaths : (d.normalizePaths lenient).IsStrictly (d.normalizePaths lenient.strict) :=
    d.normalizePathsFrom_strict rfl [] d.paths
  rw [hstrict]
  constructor
  · intro r
    rcases hpaths with ⟨hnone, hsame⟩ | ⟨hsome, id, first, second, hfailed⟩
    · -- Nothing is renamed, so the runs are the same.
      have heq : d.normalize lenient.strict = d.normalize lenient := by
        rw [normalize_eq, normalize_eq, hcomponents, hsame]
      rw [heq]
      refine ⟨fun h => ⟨h, ?_⟩, And.left⟩
      rw [← duplicates_eq_nil_iff, (parts_of_normalize h).2.2, duplicates_append,
        duplicates_components, hnone, List.nil_append]
    · constructor
      · intro h
        have hok := (parts_of_normalize h).1
        rw [hfailed] at hok
        cases hok
      · rintro ⟨h, hplain⟩
        rw [← duplicates_eq_nil_iff, (parts_of_normalize h).2.2, duplicates_append] at hplain
        exact absurd (List.append_eq_nil_iff.1 hplain).2 hsome
  · intro id first second h
    rcases error_of_normalize h with hfailed | hfailed
    · -- Named schemas do not fail for an ID.
      have hplain := (Session.confined_components (s := .start d lenient.strict)
        d.confined_withoutDuplicates (fun _ h => absurd h List.not_mem_nil) d.schemas).2 _ hfailed
      exact absurd rfl (hplain id first second)
    · have hsites : d.operationSites lenient.strict = (d.operationSites config).map Site.strict :=
        d.sitesFrom_strict config d.paths
      have hrun := (d.matches_normalizePathsFrom lenient.strict [] d.paths).result.symm.trans hfailed
      change (normalizeSites [] (d.operationSites lenient.strict)).1.report.result = _ at hrun
      rw [hsites] at hrun
      obtain ⟨before, t, after, hsplit, hid, hsecond, hnodup, -, hlookup⟩ :=
        exists_of_normalizeSites_strict hrun
      rw [List.append_nil] at hlookup
      exact ⟨before, t, after, hsplit, hid, hsecond, hnodup, exists_of_lookup hnodup hlookup⟩

/-- Two visits of a museum that go by one ID, and another that has it as well. -/
def museumDocument : Document :=
  { paths := [
      ("/museum/{id}", { get := some { operationId := some "visit" } }),
      ("/visit", { get := some {}, post := some { operationId := some "visit" } }),
      ("/gallery", { head := some { operationId := some "visit" } })] }

theorem normalize_strict_iff_museum :
    museumDocument.normalize { strictOperationIds := true } =
      .error (.duplicateOperationId "visit" "GET /museum/{id}" "POST /visit") ∧
    ∃ before t after, museumDocument.operationSites {} = before ++ t :: after ∧
      t.rawId = "visit" ∧ t.label = "POST /visit" ∧ (before.map (·.rawId)).Nodup ∧
      ∃ earlier s between, before = earlier ++ s :: between ∧
        s.rawId = "visit" ∧ s.label = "GET /museum/{id}" ∧ ∀ u ∈ earlier, u.rawId ≠ "visit" := by
  have hrun : (match museumDocument.normalize { strictOperationIds := true } with
      | .error e => some e
      | .ok _ => none) =
      some (.duplicateOperationId "visit" "GET /museum/{id}" "POST /visit") := by decide +kernel
  have hstrict : museumDocument.normalize { strictOperationIds := true } =
      .error (.duplicateOperationId "visit" "GET /museum/{id}" "POST /visit") := by
    cases h : museumDocument.normalize { strictOperationIds := true } with
    | ok r =>
      rw [h] at hrun
      cases hrun
    | error e =>
      rw [h] at hrun
      exact congrArg _ (Option.some.inj hrun)
  exact ⟨hstrict, (museumDocument.normalize_strict_iff {}).2 _ _ _ hstrict⟩

end Document

end ApiShape
