import ApiShape.Proofs.Dict
import ApiShape.Proofs.Normalize.Confined

/-!
# Required security schemes

An operation lists its own security requirements, or else takes those of the document. Every scheme
that they name counts once, at the requirement that is the first to name it: either it is listed for the
operation, or a diagnostic is recorded.
-/

namespace ApiShape

/-- The diagnostics about security schemes. -/
def aboutSchemes (diagnostics : List Diagnostic) : List Diagnostic :=
  diagnostics.filter (·.kind = .unknownSecurityScheme)

theorem aboutSchemes_append (as bs : List Diagnostic) :
    aboutSchemes (as ++ bs) = aboutSchemes as ++ aboutSchemes bs :=
  List.filter_append ..

theorem aboutSchemes_eq_nil {diagnostics : List Diagnostic}
    (h : ∀ x ∈ diagnostics, x.kind ≠ .unknownSecurityScheme) : aboutSchemes diagnostics = [] := by
  simpa only [aboutSchemes, List.filter_eq_nil_iff, decide_eq_true_iff] using h

theorem aboutSchemes_eq_self {diagnostics : List Diagnostic}
    (h : ∀ x ∈ diagnostics, x.kind = .unknownSecurityScheme) :
    aboutSchemes diagnostics = diagnostics := by
  simpa only [aboutSchemes, List.filter_eq_self, decide_eq_true_iff] using h

namespace Document

/-! ## What a name stands for -/

/-- The security scheme that a document defines under a name: that of the components, or else that of
version 2. -/
def DefinesScheme (d : Document) (name : String) (definition : SecurityScheme) : Prop :=
  (∃ c ∈ d.components, Dict.get? c.securitySchemes name = some definition) ∨
    (∀ c ∈ d.components, Dict.get? c.securitySchemes name = none) ∧
      Dict.get? d.securityDefinitions name = some definition

/-- What a definition of a supported type stands for, if it has everything that the type needs. -/
inductive SecurityScheme.Describes (x : SecurityScheme) : Model.SecurityScheme → Prop
  | apiKey {name location} (htype : x.type = "apiKey") (hname : x.name = some name)
      (hlocation : x.location = some location) : Describes x (.apiKey name location x.description)
  | http {scheme} (htype : x.type = "http") (hscheme : x.scheme = some scheme) :
      Describes x (.http (scheme.map Char.toLower) x.bearerFormat x.description)
  | basic (htype : x.type = "basic") : Describes x (.http "basic" none x.description)
  | flow {flow} (htype : x.type = "oauth2") (hflow : x.flow = some flow) :
      Describes x (.oauth2 [flow] x.description)
  | flows (htype : x.type = "oauth2") (hflow : x.flow = none) :
      Describes x (.oauth2 (Dict.keys x.flows) x.description)
  | openIdConnect {url} (htype : x.type = "openIdConnect") (hurl : x.openIdConnectUrl = some url) :
      Describes x (.openIdConnect url x.description)

theorem securityScheme?_eq_some_iff {d : Document} {name : String} {definition : SecurityScheme} :
    d.securityScheme? name = some definition ↔ d.DefinesScheme name definition := by
  unfold securityScheme? DefinesScheme
  cases d.components with
  | none => simp
  | some c =>
    cases h : Dict.get? c.securitySchemes name <;> simp [h]

theorem Site.securityScheme?_eq_some_iff {x : SecurityScheme} {scheme : Model.SecurityScheme} :
    Site.securityScheme? x = some scheme ↔ x.Describes scheme := by
  constructor
  · intro h
    unfold Site.securityScheme? at h
    split at h
    · rename_i htype
      simp only [Option.bind_eq_bind, Option.bind_eq_some_iff, Option.pure_def, Option.some.injEq] at h
      obtain ⟨name, hname, location, hlocation, rfl⟩ := h
      exact .apiKey htype hname hlocation
    · rename_i htype
      simp only [Option.bind_eq_bind, Option.bind_eq_some_iff, Option.pure_def, Option.some.injEq] at h
      obtain ⟨scheme, hscheme, rfl⟩ := h
      exact .http htype hscheme
    · rename_i htype
      cases h
      exact .basic htype
    · rename_i htype
      cases hflow : x.flow with
      | some flow =>
        rw [hflow] at h
        cases h
        exact .flow htype hflow
      | none =>
        rw [hflow] at h
        cases h
        exact .flows htype hflow
    · rename_i htype
      simp only [Option.bind_eq_bind, Option.bind_eq_some_iff, Option.pure_def, Option.some.injEq] at h
      obtain ⟨url, hurl, rfl⟩ := h
      exact .openIdConnect htype hurl
    · cases h
  · intro h
    unfold Site.securityScheme?
    cases h with
    | apiKey htype hname hlocation => simp [htype, hname, hlocation]
    | http htype hscheme => simp [htype, hscheme]
    | basic htype => simp [htype]
    | flow htype hflow => simp [htype, hflow]
    | flows htype hflow => simp [htype, hflow]
    | openIdConnect htype hurl => simp [htype, hurl]

/-! ## The requirements that come first -/

/-- The requirement at the position is the first that names the scheme. -/
def FirstNamedAt (requirements : List SecurityRequirement) (name : String) (i : Nat) : Prop :=
  ∃ before requirement after, requirements = before ++ requirement :: after ∧ before.length = i ∧
    name ∈ Dict.keys requirement ∧ ∀ earlier ∈ before, name ∉ Dict.keys earlier

/-- The names of the schemes that are required, each once, in the order in which they first come. -/
def schemeNames (requirements : List SecurityRequirement) : List String :=
  (requirements.flatMap Dict.keys).eraseDups

namespace Site

theorem map_fst_firstMentions (seen : List String) (mentions : List (String × String)) :
    (firstMentions seen mentions).map (·.1) =
      ((mentions.map (·.1)).filter fun name => !seen.contains name).eraseDups := by
  induction mentions generalizing seen with
  | nil => rfl
  | cons mention rest ih =>
    obtain ⟨name, location⟩ := mention
    rw [firstMentions, List.map_cons, List.filter_cons]
    cases hseen : seen.contains name with
    | true => simpa only [if_true, Bool.not_true, Bool.false_eq_true, if_false] using ih seen
    | false =>
      -- What comes later counts if it is neither among those seen nor this name.
      simp only [Bool.false_eq_true, if_false, Bool.not_false, if_true, List.map_cons,
        List.eraseDups_cons, ih, List.filter_filter, List.contains_cons, Bool.not_or]

/-- A mention that counts is the first of its name. -/
theorem find?_of_mem_firstMentions {seen : List String} {mentions : List (String × String)}
    {m : String × String} (h : m ∈ firstMentions seen mentions) :
    mentions.find? (·.1 == m.1) = some m ∧ m.1 ∉ seen := by
  induction mentions generalizing seen with
  | nil => cases h
  | cons mention rest ih =>
    obtain ⟨name, location⟩ := mention
    rw [firstMentions] at h
    split at h
    · rename_i hseen
      obtain ⟨hfind, hnew⟩ := ih h
      have hne : name ≠ m.1 := fun heq => hnew (heq ▸ List.contains_iff_mem.1 hseen)
      exact ⟨by rw [List.find?_cons_of_neg (by simpa using hne), hfind], hnew⟩
    · rename_i hseen
      rcases List.mem_cons.1 h with rfl | h
      · exact ⟨List.find?_cons_of_pos (beq_self_eq_true _), mt List.contains_iff_mem.2 hseen⟩
      · obtain ⟨hfind, hnew⟩ := ih h
        rw [List.mem_cons, not_or] at hnew
        exact ⟨by rw [List.find?_cons_of_neg (by simpa using Ne.symm hnew.1), hfind], hnew.2⟩

theorem map_fst_requiredNames (location : String) (requirements : List SecurityRequirement) :
    (requiredNames location requirements).map (·.1) = requirements.flatMap Dict.keys := by
  have hkeys : ∀ x : SecurityRequirement × Nat,
      ((Dict.keys x.1).map (·, locate location [toString x.2])).map (·.1) = Dict.keys x.1 := by
    intro x
    rw [List.map_map]
    exact List.map_id _
  unfold requiredNames
  rw [List.map_flatMap]
  simp only [hkeys]
  rw [← List.flatMap_map Prod.fst Dict.keys, List.zipIdx_map_fst]

/-- A mention that counts lies at the requirement that is the first to name the scheme. -/
theorem exists_firstNamedAt {location : String} {requirements : List SecurityRequirement}
    {m : String × String} (h : m ∈ firstMentions [] (requiredNames location requirements)) :
    ∃ i, FirstNamedAt requirements m.1 i ∧ m.2 = locate location [toString i] := by
  have hfind := (find?_of_mem_firstMentions h).1
  unfold requiredNames at hfind
  rw [List.find?_flatMap, List.findSome?_eq_some_iff] at hfind
  obtain ⟨before, ⟨requirement, i⟩, after, hsplit, hm, hbefore⟩ := hfind
  obtain ⟨earlier, later, rfl, rfl, hlater⟩ := List.zipIdx_eq_append_iff.1 hsplit
  obtain ⟨rfl, rest, hrest⟩ : i = earlier.length ∧ ∃ rest, later = requirement :: rest := by
    cases later with
    | nil => cases hlater
    | cons r rest =>
      cases hlater
      exact ⟨Nat.zero_add _, rest, rfl⟩
  subst hrest
  obtain ⟨name, hname, rfl⟩ := List.mem_map.1 (List.mem_of_find?_eq_some hm)
  refine ⟨earlier.length, ⟨earlier, requirement, rest, rfl, rfl, hname, ?_⟩, rfl⟩
  intro r hr hmem
  -- An earlier requirement that names the scheme would have been found instead.
  obtain ⟨j, hj⟩ := List.getElem?_of_mem hr
  have hnone := hbefore (r, j) (List.mk_mem_zipIdx_iff_getElem?.2 hj)
  rw [List.find?_eq_none] at hnone
  exact hnone _ (List.mem_map_of_mem hmem) (beq_self_eq_true name)

/-! ## What becomes of a name -/

/-- What becomes of a scheme that is required at a location: it is listed, or a diagnostic is recorded. -/
inductive Settles (d : Document) (location name : String) : Model.SecurityScheme ⊕ Diagnostic → Prop
  | listed {definition scheme} (hdefined : d.DefinesScheme name definition)
      (hscheme : definition.Describes scheme) : Settles d location name (.inl scheme)
  | unsupported {definition} (hdefined : d.DefinesScheme name definition)
      (hscheme : ∀ scheme, ¬ definition.Describes scheme) :
      Settles d location name (.inr ⟨.unknownSecurityScheme,
        "security scheme `" ++ name ++ "` has unsupported type `" ++ definition.type ++ "`", location⟩)
  | undefined (hdefined : ∀ definition, ¬ d.DefinesScheme name definition) :
      Settles d location name (.inr ⟨.unknownSecurityScheme,
        "security scheme `" ++ name ++ "` isn't defined", location⟩)

theorem exists_settles (s : Site) (location name : String) :
    ∃ outcome, Settles s.document location name outcome ∧
      s.requiredScheme location name =
        ⟨outcome.getRight?.toList, .ok outcome.getLeft?.toList⟩ := by
  unfold requiredScheme
  cases hdefined : s.document.securityScheme? name with
  | none =>
    refine ⟨_, .undefined fun definition h => ?_, rfl⟩
    rw [← Document.securityScheme?_eq_some_iff, hdefined] at h
    cases h
  | some definition =>
    have hdefines := Document.securityScheme?_eq_some_iff.1 hdefined
    dsimp only
    cases hscheme : securityScheme? definition with
    | some scheme => exact ⟨_, .listed hdefines (securityScheme?_eq_some_iff.1 hscheme), rfl⟩
    | none =>
      refine ⟨_, .unsupported hdefines fun scheme h => ?_, rfl⟩
      rw [← securityScheme?_eq_some_iff, hscheme] at h
      cases h

/-- The security requirements of an operation, or else of the document. -/
def requirements (s : Site) : List SecurityRequirement :=
  (s.operation.security <|> s.document.security).getD []

/-- Where the security requirements lie. -/
def requirementsLocation (s : Site) : String :=
  if s.operation.security.isSome then locate s.location ["security"] else locate "#" ["security"]

theorem security_eq (s : Site) :
    s.security = List.flatten <$> Report.traverse (fun m => s.requiredScheme m.2 m.1)
      (firstMentions [] (requiredNames s.requirementsLocation s.requirements)) := by
  unfold security requirements requirementsLocation
  cases s.operation.security with
  | some requirements => rfl
  | none => rfl

theorem exists_outcomes (s : Site) :
    ∃ outcomes,
      List.Forall₂ (fun name outcome => ∃ i, FirstNamedAt s.requirements name i ∧
          Settles s.document (locate s.requirementsLocation [toString i]) name outcome)
        (schemeNames s.requirements) outcomes ∧
      s.security = ⟨outcomes.filterMap Sum.getRight?, .ok (outcomes.filterMap Sum.getLeft?)⟩ := by
  choose outcome hsettles hscheme using s.exists_settles
  let mentions := firstMentions [] (requiredNames s.requirementsLocation s.requirements)
  refine ⟨mentions.map fun m => outcome m.2 m.1, ?_, ?_⟩
  · have hnames : schemeNames s.requirements = mentions.map (·.1) := by
      rw [map_fst_firstMentions, map_fst_requiredNames, schemeNames]
      simp only [List.contains_nil, Bool.not_false, List.filter_true]
    rw [hnames, List.forall₂_map_left_iff, List.forall₂_map_right_iff, List.forall₂_same]
    intro m hm
    obtain ⟨i, hfirst, hlocation⟩ := exists_firstNamedAt hm
    exact ⟨i, hfirst, hlocation ▸ hsettles m.2 m.1⟩
  · have houtcome : ∀ m : String × String, s.requiredScheme m.2 m.1 =
        ⟨(outcome m.2 m.1).getRight?.toList, .ok (outcome m.2 m.1).getLeft?.toList⟩ :=
      fun m => hscheme m.2 m.1
    rw [security_eq, Report.traverse_eq_of_forall houtcome, List.filterMap_map, List.filterMap_map,
      List.filterMap_eq_flatMap_toList, List.filterMap_eq_flatMap_toList, List.flatMap_def,
      List.flatMap_def, List.flatMap_def]
    exact congrArg (Report.mk · _) (List.append_nil _)

/-! ## Operations -/

/-- Nothing that is recorded is about a security scheme. -/
abbrev Quiet {α : Type} (r : Report NormalizeError α) : Prop :=
  r.Confined (·.kind ≠ .unknownSecurityScheme) fun _ => True

theorem Quiet.aboutSchemes_bind {α β : Type} {r : Report NormalizeError α} (h : Quiet r) {a : α}
    (ha : r.result = .ok a) (f : α → Report NormalizeError β) :
    aboutSchemes (r >>= f).diagnostics = aboutSchemes (f a).diagnostics := by
  rw [Report.bind_eq_of_ok ha, aboutSchemes_append, aboutSchemes_eq_nil h.recorded, List.nil_append]

/-- An operation lists the schemes that it requires, and what it records about schemes is recorded for
them. -/
theorem security_of_normalize {s : Site} {id : String} {o : Model.Operation}
    (h : (s.normalize id).result = .ok o) :
    s.security.result = .ok o.security ∧
      aboutSchemes (s.normalize id).diagnostics = aboutSchemes s.security.diagnostics := by
  have hdangle : Report.MayDangle fun _ : NormalizeError => True := fun _ _ => trivial
  have hschemas : s.document.Confined (·.kind ≠ .unknownSecurityScheme) fun _ => True :=
    s.document.confined_of_endless hdangle trivial fun x hx => by rw [hx]; decide
  have hasks := fun place location (_ : s.Asks place location) => hschemas.schema place location
  obtain ⟨merged, hmerged, h⟩ := Report.bind_eq_ok.1 h
  obtain ⟨parameters, hparameters, h⟩ := Report.bind_eq_ok.1 h
  obtain ⟨body, hbody, h⟩ := Report.bind_eq_ok.1 h
  obtain ⟨responses, hresponses, h⟩ := Report.bind_eq_ok.1 h
  obtain ⟨security, hsecurity, h⟩ := Report.bind_eq_ok.1 h
  obtain ⟨responseMap, hmap, h⟩ := Report.bind_eq_ok.1 h
  rw [Report.pure_eq_ok] at h
  subst h
  refine ⟨hsecurity, ?_⟩
  have hlists := lists_of_mem_mergedParameters hmerged
  have hquietMap : Quiet (Model.responseMap s.config (locate s.location ["responses"]) responses) :=
    Model.confined_responseMap (fun x hx => by rw [hx]; decide) _ _ responses
  unfold Site.normalize
  rw [Quiet.aboutSchemes_bind (s.confined_mergedParameters hdangle) hmerged,
    Quiet.aboutSchemes_bind (confined_parameters hasks hlists) hparameters,
    Quiet.aboutSchemes_bind (confined_body hasks hdangle hlists) hbody,
    Quiet.aboutSchemes_bind (confined_responses hasks hdangle) hresponses,
    Report.bind_eq_of_ok hsecurity, aboutSchemes_append, Quiet.aboutSchemes_bind hquietMap hmap]
  exact List.append_nil _

/-- The schemes that an operation lists and the diagnostics that it records about schemes together
account for the names that are required, each once and in order: a name with a definition of a supported
type is listed, and any other has a diagnostic at the requirement that is the first to name it. -/
theorem security_settled (s : Site) :
    ∃ outcomes,
      List.Forall₂ (fun name outcome => ∃ i, FirstNamedAt s.requirements name i ∧
          Settles s.document (locate s.requirementsLocation [toString i]) name outcome)
        (schemeNames s.requirements) outcomes ∧
      s.security = ⟨outcomes.filterMap Sum.getRight?, .ok (outcomes.filterMap Sum.getLeft?)⟩ ∧
      ∀ id o, (s.normalize id).result = .ok o →
        o.security = outcomes.filterMap Sum.getLeft? ∧
        aboutSchemes (s.normalize id).diagnostics = outcomes.filterMap Sum.getRight? := by
  obtain ⟨outcomes, hnames, hsecurity⟩ := s.exists_outcomes
  refine ⟨outcomes, hnames, hsecurity, fun id o ho => ?_⟩
  obtain ⟨hlisted, hrecorded⟩ := security_of_normalize ho
  rw [hsecurity] at hlisted hrecorded
  refine ⟨(Except.ok.inj hlisted).symm, hrecorded.trans (aboutSchemes_eq_self ?_)⟩
  intro x hx
  obtain ⟨outcome, hmem, hx⟩ := List.mem_filterMap.1 hx
  obtain ⟨name, -, i, -, hsettles⟩ := exists_left_of_forall₂ hnames hmem
  cases hsettles with
  | listed => cases hx
  | unsupported => cases hx; rfl
  | undefined => cases hx; rfl

end Site

end Document

end ApiShape
