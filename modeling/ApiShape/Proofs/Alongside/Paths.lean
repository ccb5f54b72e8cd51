import ApiShape.Proofs.Alongside.Operation
import ApiShape.Proofs.Normalize.Sites

/-!
# Normalizations side by side

If named schemas and operations are normalized alongside, one after the other, then so are the
documents: both fail, with corresponding errors, or both come to models that correspond.
-/

namespace ApiShape

variable {L : String → String → Prop} {E : NormalizeError → NormalizeError → Prop}
  {R : Model.Operation → Model.Operation → Prop} {N : Node → Node → Prop}

namespace Document

/-! ## Operations one after the other -/

/-- Corresponding operations have come of both, and the reports run alongside. -/
structure Progress.Alongside (L : String → String → Prop)
    (E : NormalizeError → NormalizeError → Prop) (R : Model.Operation → Model.Operation → Prop)
    (p p' : Progress) : Prop where
  operations : List.Forall₂ R p.operations p'.operations
  report : p.report.Alongside L E Eq p'.report

/-- The operations are called the same, and are normalized alongside whichever IDs are taken. -/
structure Site.TriedAlongside (L : String → String → Prop)
    (E : NormalizeError → NormalizeError → Prop) (R : Model.Operation → Model.Operation → Prop)
    (s s' : Site) : Prop where
  label : s'.label = s.label
  attempt : ∀ taken, Report.Alongside L E R (do s.normalize (← s.chooseId taken))
    (do s'.normalize (← s'.chooseId taken))

theorem normalizeSites_alongside (hid : ∀ o o', R o o' → o'.id = o.id) {sites sites' : List Site}
    (h : List.Forall₂ (Site.TriedAlongside L E R) sites sites') (taken : TakenIds) :
    (normalizeSites taken sites).1.Alongside L E R (normalizeSites taken sites').1 ∧
      (normalizeSites taken sites').2 = (normalizeSites taken sites).2 := by
  induction h generalizing taken with
  | nil => exact ⟨⟨.nil, .pure rfl⟩, rfl⟩
  | @cons s s' _ _ hs _ ih =>
    have hattempt := hs.attempt taken
    rw [normalizeSites, normalizeSites, hs.label]
    dsimp only
    generalize (do s.normalize (← s.chooseId taken) : Report NormalizeError Model.Operation) =
      attempt at hattempt ⊢
    generalize (do s'.normalize (← s'.chooseId taken) : Report NormalizeError Model.Operation) =
      attempt' at hattempt ⊢
    obtain ⟨diagnostics, result⟩ := attempt
    obtain ⟨diagnostics', result'⟩ := attempt'
    obtain ⟨hdiagnostics, hresult⟩ := hattempt
    dsimp only at hdiagnostics hresult ⊢
    cases hresult with
    | error he =>
      -- The first operation that fails ends both.
      exact ⟨⟨.nil, hdiagnostics, .error he⟩, rfl⟩
    | @ok o o' ho =>
      -- The same ID is taken by it, so that the rest starts alike.
      obtain ⟨hrest, htaken⟩ := ih ((o.id, s.label) :: taken)
      dsimp only
      rw [hid o o' ho]
      refine ⟨⟨.cons ho hrest.operations, ?_, hrest.report.result⟩, htaken⟩
      exact List.rel_append hdiagnostics hrest.report.diagnostics

theorem Progress.Alongside.followedBy {p p' q q' : Progress} (hp : p.Alongside L E R p')
    (hq : q.Alongside L E R q') : (p.followedBy q).Alongside L E R (p'.followedBy q') := by
  have hresult := hp.report.result
  have hbefore := hp.report.diagnostics
  unfold Progress.followedBy
  generalize hend : p.report.result = result at hresult ⊢
  generalize hend' : p'.report.result = result' at hresult ⊢
  cases hresult with
  | error _ => exact hp
  | ok _ =>
    refine ⟨List.rel_append hp.operations hq.operations, ?_, hq.report.result⟩
    exact List.rel_append hbefore hq.report.diagnostics

theorem pathParams_alongside (hl : ∀ path, L (locate "#" ["paths", path]) (locate "#" ["paths", path]))
    (path : String) : (pathParams path).Alongside L E Eq (pathParams path) := by
  unfold pathParams
  split
  · exact .pure rfl
  · exact (Report.Alongside.record (hl path)).bind fun _ _ _ => .pure rfl

variable {d d' : Document} {config : Config}

/-- The paths are the same, and their operations are normalized alongside. -/
structure PathAlongside (L : String → String → Prop) (E : NormalizeError → NormalizeError → Prop)
    (R : Model.Operation → Model.Operation → Prop) (config : Config) (d d' : Document)
    (e e' : String × PathItem) : Prop where
  path : e.1 = e'.1
  sites : List.Forall₂ (Site.TriedAlongside L E R) (d.sites config e.1 e.2 (templateParams e.1))
    (d'.sites config e'.1 e'.2 (templateParams e'.1))

theorem normalizePathsFrom_alongside (hid : ∀ o o', R o o' → o'.id = o.id)
    (hl : ∀ path, L (locate "#" ["paths", path]) (locate "#" ["paths", path]))
    {paths paths' : List (String × PathItem)}
    (h : List.Forall₂ (PathAlongside L E R config d d') paths paths') (taken : TakenIds) :
    (d.normalizePathsFrom config taken paths).Alongside L E R
      (d'.normalizePathsFrom config taken paths') := by
  induction h generalizing taken with
  | nil => exact ⟨.nil, .pure rfl⟩
  | @cons e e' _ _ he _ ih =>
    obtain ⟨path, item⟩ := e
    obtain ⟨_, item'⟩ := e'
    obtain ⟨rfl, hsites⟩ := he
    obtain ⟨hhere, htaken⟩ := normalizeSites_alongside hid hsites taken
    have hbefore : Progress.Alongside L E R ⟨[], (pathParams path).diagnostics, .ok ()⟩
        ⟨[], (pathParams path).diagnostics, .ok ()⟩ :=
      ⟨.nil, (pathParams_alongside (E := E) hl path).diagnostics, .ok rfl⟩
    rw [normalizePathsFrom_cons, normalizePathsFrom_cons, htaken]
    exact hbefore.followedBy (hhere.followedBy (ih _))

end Document

/-! ## Models -/

/-- The models say the same about themselves, and have corresponding named schemas and corresponding
operations under the same paths. -/
structure Model.Alongside (N : Node → Node → Prop) (R : Model.Operation → Model.Operation → Prop)
    (m m' : Model) : Prop where
  info : m.info = m'.info
  schemas : List.Forall₂ (Named N) m.schemas m'.schemas
  paths : List.Forall₂ (Named (List.Forall₂ R)) m.paths m'.paths

namespace Model

variable (hR : ∀ o o', R o o' → o.path = o'.path ∧ o.method = o'.method)

include hR

theorem setOperation_alongside {o o' : Operation} (ho : R o o') {os os' : List Operation}
    (h : List.Forall₂ R os os') : List.Forall₂ R (setOperation o os) (setOperation o' os') := by
  induction h with
  | nil => exact .cons ho .nil
  | cons hq hrest ih =>
    rw [setOperation, setOperation, (hR _ _ hq).2, (hR _ _ ho).2]
    split
    · exact .cons ho hrest
    · exact .cons hq ih

theorem insertOperation_alongside {m m' : Model} (h : m.Alongside N R m') {o o' : Operation}
    (ho : R o o') : (m.insertOperation o).Alongside N R (m'.insertOperation o') := by
  refine ⟨h.info, h.schemas, ?_⟩
  unfold insertOperation
  rw [← (hR o o' ho).1]
  exact named_insert h.paths o.path
    (setOperation_alongside hR ho (forall₂_getD (rel_get? h.paths o.path)))

theorem foldl_insertOperation_alongside {m m' : Model} (h : m.Alongside N R m')
    {os os' : List Operation} (hos : List.Forall₂ R os os') :
    (os.foldl insertOperation m).Alongside N R (os'.foldl insertOperation m') := by
  induction hos generalizing m m' with
  | nil => exact h
  | cons ho _ ih => exact ih (insertOperation_alongside hR h ho)

end Model

/-! ## Documents -/

/-- Documents whose schemas correspond and whose operations are normalized alongside are so
themselves. -/
theorem Document.normalize_alongside {p : Pairing} {d d' : Document} {config : Config}
    (h : p.Holds d d') (hschemas : List.Forall₂ (NamedSchema.Alongside p d d') d.schemas d'.schemas)
    (hinfo : d.info = d'.info) (hR : ∀ o o', R o o' → o.path = o'.path ∧ o.method = o'.method)
    (hpaths : (d.normalizePaths config).Alongside p.location p.error R (d'.normalizePaths config)) :
    Both p.error (fun r r' => r.model.Alongside p.node R r'.model ∧
        List.Forall₂ (Diagnostic.Alongside p.location) r.diagnostics r'.diagnostics)
      (d.normalize config) (d'.normalize config) := by
  have hstart : (Session.start d config).Alongside p (Session.start d' config) :=
    ⟨.nil, hinfo, .nil, rfl⟩
  obtain ⟨hsession, hcomponents⟩ := Session.components_alongside h hschemas rfl rfl hstart
  have hpaths₀ := Session.paths_components (Session.start d config) d.schemas
  have hpaths₀' := Session.paths_components (Session.start d' config) d'.schemas
  rw [normalize_eq, normalize_eq]
  generalize (Session.start d config).components d.schemas = first at *
  generalize (Session.start d' config).components d'.schemas = first' at *
  obtain ⟨s, result⟩ := first
  obtain ⟨s', result'⟩ := first'
  dsimp only at hcomponents hsession hpaths₀ hpaths₀' ⊢
  cases hcomponents with
  | error he => exact .error he
  | ok _ =>
    have hmodel : s.model.Alongside p.node R s'.model := by
      refine ⟨hsession.info, hsession.schemas, ?_⟩
      rw [hpaths₀, hpaths₀']
      exact .nil
    have hresult := hpaths.report.result
    dsimp only [Except.bind]
    generalize (d.normalizePaths config).report.result = last at hresult ⊢
    generalize (d'.normalizePaths config).report.result = last' at hresult ⊢
    cases hresult with
    | error he => exact .error he
    | ok _ =>
      refine .ok ⟨Model.foldl_insertOperation_alongside hR hmodel hpaths.operations, ?_⟩
      exact List.rel_append hsession.diagnostics hpaths.report.diagnostics

end ApiShape
