import ApiShape.Proofs.Alongside.Session
import ApiShape.Proofs.Normalize.Confined
import ApiShape.Proofs.Normalize.Document

/-!
# The operations of a document

The operations of a document are normalized one after the other, in the order of the paths and, for
one path, of the methods. What comes of them stands in the model in this order, under its path.
-/

namespace ApiShape

/-- The diagnostics about operation IDs that are taken already. -/
def duplicates (diagnostics : List Diagnostic) : List Diagnostic :=
  diagnostics.filter (·.kind = .duplicateOperationId)

theorem duplicates_append (as bs : List Diagnostic) :
    duplicates (as ++ bs) = duplicates as ++ duplicates bs :=
  List.filter_append ..

theorem duplicates_eq_nil_iff {diagnostics : List Diagnostic} :
    duplicates diagnostics = [] ↔ ∀ x ∈ diagnostics, x.kind ≠ .duplicateOperationId := by
  simp only [duplicates, List.filter_eq_nil_iff, decide_eq_true_iff]

namespace Document

/-! ## From paths to operations -/

/-- The parameters of a path, or none if it is no template. -/
def templateParams (path : String) : List String :=
  match (pathParams path).result with
  | .ok params => params
  | .error _ => []

/-- The operations of some paths in their place. -/
def sitesFrom (d : Document) (config : Config) (paths : List (String × PathItem)) : List Site :=
  paths.flatMap fun (path, item) => d.sites config path item (templateParams path)

/-- The operations of a document in their place. -/
def operationSites (d : Document) (config : Config) : List Site :=
  d.sitesFrom config d.paths

theorem mem_operationSites {d : Document} {config : Config} {s : Site}
    (h : s ∈ d.operationSites config) : s.document = d ∧ s.config = config := by
  obtain ⟨⟨path, item⟩, _, hs⟩ := List.mem_flatMap.1 h
  obtain ⟨⟨method, operation⟩, _, rfl⟩ := List.mem_map.1 hs
  exact ⟨rfl, rfl⟩

/-- What comes of some operations, and then of others unless one has failed. -/
def Progress.followedBy (p q : Progress) : Progress :=
  match p.report.result with
  | .error _ => p
  | .ok () =>
    ⟨p.operations ++ q.operations, p.report.diagnostics ++ q.report.diagnostics, q.report.result⟩

theorem normalizeSites_append (taken : TakenIds) (sites more : List Site) :
    (normalizeSites taken (sites ++ more)).1 =
      (normalizeSites taken sites).1.followedBy
        (normalizeSites (normalizeSites taken sites).2 more).1 := by
  induction sites generalizing taken with
  | nil => rfl
  | cons s rest ih =>
    rw [List.cons_append, normalizeSites, normalizeSites]
    dsimp only
    split
    · rfl
    · rename_i o _
      have hrest := ih ((o.id, s.label) :: taken)
      generalize normalizeSites ((o.id, s.label) :: taken) (rest ++ more) = all at hrest ⊢
      generalize normalizeSites ((o.id, s.label) :: taken) rest = first at hrest ⊢
      obtain ⟨all, taken'⟩ := all
      obtain ⟨⟨operations, diagnostics, result⟩, taken''⟩ := first
      dsimp only at hrest ⊢
      rw [hrest]
      unfold Progress.followedBy
      -- Where the first part fails, neither side goes on.
      cases result with
      | error e => rfl
      | ok _ =>
        dsimp only
        rw [List.cons_append, List.append_assoc]

/-- Of a path, its template is read first, and then its operations are normalized. -/
theorem normalizePathsFrom_cons (d : Document) (config : Config) (taken : TakenIds) (path : String)
    (item : PathItem) (rest : List (String × PathItem)) :
    d.normalizePathsFrom config taken ((path, item) :: rest) =
      Progress.followedBy ⟨[], (pathParams path).diagnostics, .ok ()⟩
        ((normalizeSites taken (d.sites config path item (templateParams path))).1.followedBy
          (d.normalizePathsFrom config
            (normalizeSites taken (d.sites config path item (templateParams path))).2 rest)) := by
  rw [normalizePathsFrom]
  unfold templateParams Progress.followedBy
  generalize pathParams path = template
  -- Whatever the template gives as parameters, the operations are the same on both sides.
  obtain ⟨before, _ | params⟩ := template
  all_goals
    dsimp only
    generalize normalizeSites taken _ = here
    obtain ⟨⟨operations, diagnostics, result⟩, after⟩ := here
    cases result with
    | error e => rfl
    | ok _ =>
      dsimp only
      rw [List.append_assoc, List.nil_append]

/-- Both have come to the same operations and to the same end, and have met the same IDs again. -/
structure Progress.Matches (p q : Progress) : Prop where
  operations : p.operations = q.operations
  result : p.report.result = q.report.result
  duplicates : duplicates p.report.diagnostics = duplicates q.report.diagnostics

theorem Progress.Matches.followedBy {p q q' : Progress} (h : q.Matches q') :
    (p.followedBy q).Matches (p.followedBy q') := by
  unfold Progress.followedBy
  split
  · exact ⟨rfl, rfl, rfl⟩
  · refine ⟨congrArg (p.operations ++ ·) h.operations, h.result, ?_⟩
    dsimp only
    rw [duplicates_append, duplicates_append, h.duplicates]

theorem duplicates_pathParams (path : String) : duplicates (pathParams path).diagnostics = [] := by
  unfold pathParams
  split <;> rfl

/-- Going through the paths is going through their operations: besides, only a path that is no template
is reported. -/
theorem matches_normalizePathsFrom (d : Document) (config : Config) (taken : TakenIds)
    (paths : List (String × PathItem)) :
    (d.normalizePathsFrom config taken paths).Matches
      (normalizeSites taken (d.sitesFrom config paths)).1 := by
  induction paths generalizing taken with
  | nil => exact ⟨rfl, rfl, rfl⟩
  | cons e rest ih =>
    obtain ⟨path, item⟩ := e
    have hsites : d.sitesFrom config ((path, item) :: rest) =
        d.sites config path item (templateParams path) ++ d.sitesFrom config rest := rfl
    rw [hsites, normalizeSites_append, normalizePathsFrom_cons]
    obtain ⟨hoperations, hresult, hduplicates⟩ := Progress.Matches.followedBy
      (p := (normalizeSites taken (d.sites config path item (templateParams path))).1)
      (ih (normalizeSites taken (d.sites config path item (templateParams path))).2)
    refine ⟨hoperations, hresult, ?_⟩
    unfold Progress.followedBy at hduplicates ⊢
    dsimp only
    -- What is recorded about the parameters of a path is nothing about IDs.
    rw [duplicates_append, duplicates_pathParams, List.nil_append]
    exact hduplicates

/-! ## What operations report -/

section Confined

variable {K : Diagnostic → Prop} {E : NormalizeError → Prop}

/-- What operations report, and what is said about their IDs, is all that is reported of them one after
the other. -/
theorem confined_normalizeSites (taken : TakenIds) {sites : List Site}
    (hids : ∀ s ∈ sites, ∀ taken, (s.chooseId taken).Confined K E)
    (hsites : ∀ s ∈ sites, ∀ id, (s.normalize id).Confined K E) :
    (normalizeSites taken sites).1.report.Confined K E := by
  induction sites generalizing taken with
  | nil => exact .pure ()
  | cons s rest ih =>
    rw [List.forall_mem_cons] at hids hsites
    have hattempt : Report.Confined K E (do s.normalize (← s.chooseId taken)) :=
      (hids.1 taken).bind fun id _ => hsites.1 id
    rw [normalizeSites]
    dsimp only
    split
    · rename_i e he
      refine ⟨rfl, hattempt.recorded, ?_⟩
      rintro _ ⟨⟩
      exact hattempt.failed e he
    · rename_i o _
      obtain ⟨-, hrecorded, hfailed⟩ := ih ((o.id, s.label) :: taken) hids.2 hsites.2
      refine ⟨rfl, ?_, hfailed⟩
      exact List.forall_mem_append.2 ⟨hattempt.recorded, hrecorded⟩

end Confined

/-! ## The whole normalization -/

/-- A document is normalized if its named schemas are, and then its operations. -/
theorem normalize_eq (d : Document) (config : Config) :
    d.normalize config =
      ((Session.start d config).components d.schemas).2.bind fun _ =>
        (d.normalizePaths config).report.result.map fun _ =>
          ⟨(d.normalizePaths config).operations.foldl Model.insertOperation
              ((Session.start d config).components d.schemas).1.model,
            ((Session.start d config).components d.schemas).1.diagnostics ++
              (d.normalizePaths config).report.diagnostics⟩ := by
  -- The named schemas change neither the document nor the settings of the session.
  obtain ⟨hd, hconfig⟩ := (Session.start d config).document_components d.schemas
  unfold normalize
  generalize (Session.start d config).components d.schemas = first at hd hconfig ⊢
  obtain ⟨⟨d', config', model, diagnostics⟩, result⟩ := first
  cases hd
  cases hconfig
  cases result with
  | error e => rfl
  | ok _ =>
    unfold Session.paths Session.note
    dsimp only [Except.bind]
    cases (d.normalizePaths config).report.result <;> rfl

theorem parts_of_normalize {d : Document} {config : Config} {r : Normalized}
    (h : d.normalize config = .ok r) :
    (d.normalizePaths config).report.result = .ok () ∧
      r.model = (d.normalizePaths config).operations.foldl Model.insertOperation
        ((Session.start d config).components d.schemas).1.model ∧
      r.diagnostics = ((Session.start d config).components d.schemas).1.diagnostics ++
        (d.normalizePaths config).report.diagnostics := by
  rw [normalize_eq] at h
  cases hcomponents : ((Session.start d config).components d.schemas).2 with
  | error e =>
    rw [hcomponents] at h
    cases h
  | ok _ =>
    rw [hcomponents] at h
    cases hpaths : (d.normalizePaths config).report.result with
    | error e =>
      rw [hpaths] at h
      cases h
    | ok _ =>
      rw [hpaths] at h
      cases h
      exact ⟨rfl, rfl, rfl⟩

/-- The error of a normalization is that of the named schemas or that of the operations. -/
theorem error_of_normalize {d : Document} {config : Config} {e : NormalizeError}
    (h : d.normalize config = .error e) :
    ((Session.start d config).components d.schemas).2 = .error e ∨
      (d.normalizePaths config).report.result = .error e := by
  rw [normalize_eq] at h
  cases hcomponents : ((Session.start d config).components d.schemas).2 with
  | error e' =>
    rw [hcomponents] at h
    exact .inl (congrArg _ (Except.error.inj h))
  | ok _ =>
    rw [hcomponents] at h
    right
    cases hpaths : (d.normalizePaths config).report.result with
    | error e' =>
      rw [hpaths] at h
      exact congrArg _ (Except.error.inj h)
    | ok _ =>
      rw [hpaths] at h
      cases h

end Document

namespace Session

variable {K : Diagnostic → Prop} {E : NormalizeError → Prop}

/-- What the named schemas report in their places is all that they report one after the other. -/
theorem confined_components_of_mem {s : Session} {named : List Document.NamedSchema}
    (hnamed : ∀ x ∈ named,
      (s.document.normalizeComponent x.name x.schema x.location).Confined K E)
    (hs : ∀ x ∈ s.diagnostics, K x) :
    (∀ x ∈ (s.components named).1.diagnostics, K x) ∧
      ∀ e, (s.components named).2 = .error e → E e := by
  induction named generalizing s with
  | nil => exact ⟨hs, nofun⟩
  | cons x rest ih =>
    rw [List.forall_mem_cons] at hnamed
    obtain ⟨-, hrecorded, hfailed⟩ := hnamed.1
    have hnoted : ∀ y ∈ s.diagnostics ++
        (s.document.normalizeComponent x.name x.schema x.location).diagnostics, K y := by
      intro y hy
      rcases List.mem_append.1 hy with hy | hy
      · exact hs y hy
      · exact hrecorded y hy
    rw [components, component]
    cases hresult : (s.document.normalizeComponent x.name x.schema x.location).result with
    | error e =>
      refine ⟨hnoted, ?_⟩
      intro e' he
      cases he
      exact hfailed e hresult
    | ok n =>
      apply ih
      · exact hnamed.2
      · exact hnoted

/-- Whatever the named schemas report is among given diagnostics and errors. -/
theorem confined_components {s : Session} (hd : s.document.Confined K E)
    (hs : ∀ x ∈ s.diagnostics, K x) (named : List Document.NamedSchema) :
    (∀ x ∈ (s.components named).1.diagnostics, K x) ∧
      ∀ e, (s.components named).2 = .error e → E e :=
  confined_components_of_mem (fun x _ => hd.component x.name x.schema x.location) hs

/-- No operation is there before the operations are normalized. -/
theorem paths_components (s : Session) (named : List Document.NamedSchema) :
    (s.components named).1.model.paths = s.model.paths := by
  induction named generalizing s with
  | nil => rfl
  | cons x rest ih =>
    rw [components, component]
    cases (s.document.normalizeComponent x.name x.schema x.location).result with
    | error e => rfl
    | ok n => exact ih _

/-- The configuration does not matter for named schemas. -/
theorem components_withConfig (s : Session) (config : Config) (named : List Document.NamedSchema) :
    ({ s with config } : Session).components named =
      ({ (s.components named).1 with config }, (s.components named).2) := by
  induction named generalizing s with
  | nil => rfl
  | cons x rest ih =>
    rw [components, components, component, component]
    dsimp only
    cases (s.document.normalizeComponent x.name x.schema x.location).result with
    | error e => rfl
    | ok n =>
      exact ih { s.note (s.document.normalizeComponent x.name x.schema x.location).diagnostics with
        model := s.model.insertSchema x.name n }

end Session

/-! ## Operations in the model -/

namespace Model

theorem setOperation_of_notMem {o : Operation} {os : List Operation}
    (h : o.method ∉ os.map (·.method)) : setOperation o os = os ++ [o] := by
  induction os with
  | nil => rfl
  | cons p rest ih =>
    simp only [List.map_cons, List.mem_cons, not_or] at h
    rw [setOperation, if_neg (Ne.symm h.1), ih h.2, List.cons_append]

/-- Operations with different methods that belong to the last path are added there in order. -/
theorem paths_foldl_insertOperation_concat {m : Model} {path : String}
    {earlier : List (String × List Operation)} {here os : List Operation}
    (hm : m.paths = earlier ++ [(path, here)]) (hnew : path ∉ Dict.keys earlier)
    (hpath : ∀ o ∈ os, o.path = path) (hmethods : ((here ++ os).map (·.method)).Nodup) :
    (os.foldl insertOperation m).paths = earlier ++ [(path, here ++ os)] := by
  induction os generalizing m here with
  | nil => rw [List.foldl_nil, hm, List.append_nil]
  | cons o rest ih =>
    have hassoc : here ++ o :: rest = (here ++ [o]) ++ rest := by
      rw [List.append_assoc, List.singleton_append]
    rw [hassoc] at hmethods ⊢
    have hmethod : o.method ∉ here.map (·.method) := by
      intro hmem
      rw [List.map_append, List.map_append, List.nodup_append] at hmethods
      rw [List.nodup_append] at hmethods
      exact hmethods.1.2.2 _ hmem _ (List.mem_singleton_self _) rfl
    have hget : Dict.get? m.paths path = some here := by
      rw [hm, Dict.get?_append, Dict.get?_of_notMem hnew]
      simp [Dict.get?]
    -- The path is the last of the model, and stays it.
    rw [List.foldl_cons]
    apply ih
    · show Dict.insert m.paths o.path _ = _
      rw [hpath o List.mem_cons_self, hget, Option.getD_some, setOperation_of_notMem hmethod, hm,
        Dict.insert_concat hnew]
    · exact fun p hp => hpath p (List.mem_cons_of_mem _ hp)
    · exact hmethods

/-- Operations with different methods of a path that is not there yet are added under it. -/
theorem paths_foldl_insertOperation_of_notMem {m : Model} {path : String} {os : List Operation}
    (hos : os ≠ []) (hnew : path ∉ Dict.keys m.paths) (hpath : ∀ o ∈ os, o.path = path)
    (hmethods : (os.map (·.method)).Nodup) :
    (os.foldl insertOperation m).paths = m.paths ++ [(path, os)] := by
  cases os with
  | nil => exact absurd rfl hos
  | cons o rest =>
    rw [List.foldl_cons]
    have hfirst : (m.insertOperation o).paths = m.paths ++ [(path, [o])] := by
      show Dict.insert m.paths o.path _ = _
      rw [hpath o List.mem_cons_self, Dict.get?_of_notMem hnew, Dict.insert_of_notMem hnew]
      rfl
    exact paths_foldl_insertOperation_concat hfirst hnew
      (fun p hp => hpath p (List.mem_cons_of_mem _ hp)) hmethods

end Model

namespace Document

/-- The methods of a path come in a fixed order. -/
theorem PathItem.map_fst_operations (item : PathItem) :
    item.operations.map (·.1) = Method.all.filter fun m => (item.operation? m).isSome := by
  unfold PathItem.operations
  induction Method.all with
  | nil => rfl
  | cons m rest ih =>
    rw [List.filterMap_cons, List.filter_cons]
    cases item.operation? m with
    | none => exact ih
    | some o => exact congrArg (m :: ·) ih

theorem PathItem.nodup_operations (item : PathItem) : (item.operations.map (·.1)).Nodup := by
  rw [item.map_fst_operations]
  exact List.Nodup.filter _ (by decide)

/-- The operations of different paths, one after the other and for each path in the order of the
methods, are added under their paths; a path without operations is left out. -/
theorem paths_foldl_insertOperation {paths : List (String × PathItem)}
    (hpaths : (paths.map (·.1)).Nodup) {os : List Model.Operation}
    (hos : os.map (fun o => (o.path, o.method)) =
      paths.flatMap fun e => e.2.operations.map fun x => (e.1, x.1))
    {m : Model} (hm : ∀ path ∈ paths.map (·.1), path ∉ Dict.keys m.paths) :
    ∃ blocks, (os.foldl Model.insertOperation m).paths = m.paths ++ blocks ∧
      blocks.flatMap (·.2) = os ∧
      blocks.map (fun b => (b.1, b.2.map (·.method))) =
        (paths.map fun e => (e.1, e.2.operations.map (·.1))).filter (!·.2.isEmpty) := by
  induction paths generalizing os m with
  | nil =>
    rw [List.flatMap_nil, List.map_eq_nil_iff] at hos
    subst hos
    exact ⟨[], (List.append_nil _).symm, rfl, rfl⟩
  | cons e rest ih =>
    obtain ⟨path, item⟩ := e
    rw [List.flatMap_cons, List.map_eq_append_iff] at hos
    obtain ⟨here, others, rfl, hhere, hothers⟩ := hos
    rw [List.map_cons, List.nodup_cons] at hpaths
    have hmethods : here.map (·.method) = item.operations.map (·.1) := by
      have h := congrArg (List.map Prod.snd) hhere
      rwa [List.map_map, List.map_map] at h
    have hpath : ∀ o ∈ here, o.path = path := by
      intro o ho
      have hmem := List.mem_map_of_mem (f := fun o : Model.Operation => (o.path, o.method)) ho
      rw [hhere] at hmem
      obtain ⟨x, -, hx⟩ := List.mem_map.1 hmem
      exact (congrArg Prod.fst hx).symm
    rw [List.foldl_append, List.map_cons, List.filter_cons, ← hmethods]
    by_cases hempty : here = []
    · -- A path without operations leaves no trace in the model.
      subst hempty
      exact ih hpaths.2 hothers fun other hother => hm other (List.mem_cons_of_mem _ hother)
    · -- The path is not there yet, and the others are none of the paths before them.
      have hblock := Model.paths_foldl_insertOperation_of_notMem hempty
        (hm path List.mem_cons_self) hpath (hmethods ▸ item.nodup_operations)
      obtain ⟨blocks, hpaths', hflat, hmap⟩ := ih (m := here.foldl Model.insertOperation m)
        hpaths.2 hothers (by
          intro other hother
          rw [hblock, Dict.keys, List.map_append, List.mem_append, not_or]
          refine ⟨hm other (List.mem_cons_of_mem _ hother), fun hmem => ?_⟩
          rw [List.mem_singleton.1 hmem] at hother
          exact hpaths.1 hother)
      refine ⟨(path, here) :: blocks, ?_, ?_, ?_⟩
      · rw [hpaths', hblock, List.append_assoc, List.singleton_append]
      · rw [List.flatMap_cons, hflat]
      · rw [List.map_cons, hmap]
        simp [hempty]

end Document

end ApiShape
