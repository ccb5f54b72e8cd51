import ApiShape.Proofs.Normalize.Sites
import ApiShape.Proofs.Pointer.Segments

/-!
# Operation IDs

Every operation gets an ID that no operation before it has: its raw ID if that is free, or else the
first free successor of it. One by one, the operations of a document are so given different IDs, and
every renamed operation is reported once.
-/

namespace ApiShape

/-! ## Free IDs -/

theorem toString_injective {m n : Nat} (h : toString m = toString n) : m = n := by
  have hdigits := congrArg String.toList h
  rw [Nat.toString_eq_repr, Nat.toString_eq_repr, Nat.toList_repr, Nat.toList_repr] at hdigits
  have hnumber := congrArg (fun digits => Nat.ofDigitChars 10 digits 0) hdigits
  simpa using hnumber

namespace Document

theorem lookup_eq_none_iff {taken : TakenIds} {id : String} :
    taken.lookup id = none ↔ id ∉ taken.map (·.1) := by
  rw [List.lookup_eq_none_iff, List.mem_map, not_exists]
  constructor
  · rintro h e ⟨he, rfl⟩
    simpa using h e he
  · intro h e he
    have hne : id ≠ e.1 := fun hid => h e ⟨he, hid.symm⟩
    simpa using hne

/-- The ID that is chosen is a successor, and it is free. -/
theorem freshId_spec (taken : TakenIds) (id : String) :
    (∃ n, 2 ≤ n ∧ freshId taken id = id ++ toString n) ∧ freshId taken id ∉ taken.map (·.1) := by
  unfold freshId
  dsimp only
  generalize hsuccessors : (List.range (taken.length + 1)).map (fun i => id ++ toString (i + 2)) =
    successors
  cases hfound : successors.find? fun candidate => (taken.lookup candidate).isNone with
  | some candidate =>
    rw [Option.getD_some]
    have hmem := List.mem_of_find?_eq_some hfound
    have hfree := List.find?_some hfound
    rw [← hsuccessors] at hmem
    obtain ⟨i, -, rfl⟩ := List.mem_map.1 hmem
    refine ⟨⟨i + 2, by omega, rfl⟩, ?_⟩
    rw [← lookup_eq_none_iff]
    exact Option.isNone_iff_eq_none.1 hfree
  | none =>
    -- Then all the successors are taken, but there are too many of them.
    exfalso
    rw [List.find?_eq_none] at hfound
    have hsubset : successors ⊆ taken.map (·.1) := by
      intro candidate hcandidate
      by_contra hfree
      rw [← lookup_eq_none_iff] at hfree
      exact hfound candidate hcandidate (Option.isNone_iff_eq_none.2 hfree)
    have hnodup : successors.Nodup := by
      rw [← hsuccessors]
      apply List.Nodup.map _ List.nodup_range
      intro i j hij
      have := toString_injective (String.append_right_inj id |>.1 hij)
      omega
    have hlength := (List.subperm_of_subset hnodup hsubset).length_le
    rw [← hsuccessors, List.length_map, List.length_map, List.length_range] at hlength
    omega

namespace Site

/-- Where the ID of an operation lies. -/
def idLocation (s : Site) : String :=
  ApiShape.locate s.location ["operationId"]

/-- A raw ID that is free is chosen, and nothing is reported. -/
theorem chooseId_of_notMem {s : Site} {taken : TakenIds} (h : s.rawId ∉ taken.map (·.1)) :
    s.chooseId taken = pure s.rawId := by
  unfold chooseId
  dsimp only
  rw [lookup_eq_none_iff.2 h]

/-- For a raw ID that is taken a free one is chosen, unless IDs must be unique, and this is reported. -/
theorem chooseId_of_mem {s : Site} {taken : TakenIds} (hlenient : s.config.strictOperationIds = false)
    (h : s.rawId ∈ taken.map (·.1)) :
    ∃ message, s.chooseId taken =
      ⟨[⟨.duplicateOperationId, message, s.idLocation⟩], .ok (freshId taken s.rawId)⟩ := by
  unfold chooseId
  dsimp only
  cases hfirst : taken.lookup s.rawId with
  | none => exact absurd h (lookup_eq_none_iff.1 hfirst)
  | some first =>
    dsimp only
    rw [hlenient]
    exact ⟨_, rfl⟩

/-- An operation keeps the ID that it is given, its path and its method. -/
theorem fields_of_normalize {s : Site} {id : String} {o : Model.Operation}
    (h : (s.normalize id).result = .ok o) : o.id = id ∧ o.path = s.path ∧ o.method = s.method := by
  unfold Site.normalize at h
  simp only [Report.bind_eq_ok, Report.pure_eq_ok] at h
  obtain ⟨merged, -, parameters, -, body, -, responses, -, security, -, responseMap, -, rfl⟩ := h
  exact ⟨rfl, rfl, rfl⟩

end Site

/-! ## One operation after the other -/

/-- The operations that come of some sites where some IDs are taken, and the places of the IDs that
are renamed. An operation takes its raw ID if that is free, and else a free successor. -/
inductive Takes : (taken : List String) → List Site → List Model.Operation →
    (renamed : List String) → Prop
  | done taken : Takes taken [] [] []
  | raw {taken s o rest os renamed} (hfree : s.rawId ∉ taken)
      (ho : (s.normalize s.rawId).result = .ok o) (hrest : Takes (s.rawId :: taken) rest os renamed) :
      Takes taken (s :: rest) (o :: os) renamed
  | renamed {taken s o rest os renamed id} (n : Nat) (htaken : s.rawId ∈ taken) (hn : 2 ≤ n)
      (hid : id = s.rawId ++ toString n) (hfree : id ∉ taken)
      (ho : (s.normalize id).result = .ok o) (hrest : Takes (id :: taken) rest os renamed) :
      Takes taken (s :: rest) (o :: os) (s.idLocation :: renamed)

namespace Takes

variable {taken renamed : List String} {sites : List Site} {os : List Model.Operation}

/-- The IDs that are taken are different, and were free. -/
theorem nodup (h : Takes taken sites os renamed) :
    (os.map (·.id)).Nodup ∧ ∀ id ∈ os.map (·.id), id ∉ taken := by
  induction h with
  | done => exact ⟨List.nodup_nil, fun _ h => absurd h List.not_mem_nil⟩
  | raw hfree ho _ ih | renamed _ _ _ _ hfree ho _ ih =>
    obtain ⟨hnodup, hnew⟩ := ih
    rw [List.map_cons, (Site.fields_of_normalize ho).1]
    constructor
    · rw [List.nodup_cons]
      exact ⟨fun hmem => hnew _ hmem List.mem_cons_self, hnodup⟩
    · intro id hid
      rcases List.mem_cons.1 hid with rfl | hid
      · exact hfree
      · exact fun hmem => hnew id hid (List.mem_cons_of_mem _ hmem)

theorem renamed_subset (h : Takes taken sites os renamed) : renamed ⊆ sites.map (·.idLocation) := by
  induction h with
  | done => exact List.Subset.refl _
  | raw _ _ _ ih => exact List.Subset.trans ih (List.subset_cons_self _ _)
  | renamed _ _ _ _ _ _ _ ih =>
    rw [List.map_cons]
    exact List.cons_subset_cons _ ih

/-- The operation of a site has its raw ID and is not reported as renamed, or has a successor of it
and is reported once. -/
def Given (renamed : List String) (s : Site) (o : Model.Operation) : Prop :=
  (o.id = s.rawId ∧ renamed.count s.idLocation = 0) ∨
    (∃ n, 2 ≤ n ∧ o.id = s.rawId ++ toString n) ∧ renamed.count s.idLocation = 1

/-- Every site gives its own operation, if the sites lie at different places. -/
theorem forall₂ (h : Takes taken sites os renamed) (hsites : (sites.map (·.idLocation)).Nodup)
    (all : List String) (hall : ∀ s ∈ sites, all.count s.idLocation = renamed.count s.idLocation) :
    List.Forall₂ (fun s o => (s.normalize o.id).result = .ok o ∧ Given all s o) sites os := by
  -- The place of the first site is none of those that are renamed after it.
  have hfirst : ∀ {taken s rest os renamed}, Takes taken rest os renamed →
      (List.map Site.idLocation (s :: rest)).Nodup → renamed.count s.idLocation = 0 := by
    intro taken s rest os renamed hrest hsites
    rw [List.map_cons, List.nodup_cons] at hsites
    rw [List.count_eq_zero]
    exact fun hmem => hsites.1 (hrest.renamed_subset hmem)
  induction h with
  | done => exact .nil
  | raw hfree ho hrest ih =>
    have hid := (Site.fields_of_normalize ho).1
    apply List.Forall₂.cons
    · rw [hid]
      refine ⟨ho, .inl ⟨hid, ?_⟩⟩
      rw [hall _ List.mem_cons_self]
      exact hfirst hrest hsites
    · exact ih (List.nodup_cons.1 hsites).2 fun t ht => hall t (List.mem_cons_of_mem _ ht)
  | @«renamed» taken s o rest os renamed id n _ hn hid _ ho hrest ih =>
    have hsame := (Site.fields_of_normalize ho).1
    apply List.Forall₂.cons
    · rw [hsame]
      refine ⟨ho, .inr ⟨⟨n, hn, hsame.trans hid⟩, ?_⟩⟩
      rw [hall _ List.mem_cons_self, List.count_cons_self, hfirst hrest hsites]
    · apply ih (List.nodup_cons.1 hsites).2
      intro t ht
      have hne : s.idLocation ≠ t.idLocation := by
        intro heq
        rw [List.map_cons, heq] at hsites
        exact (List.nodup_cons.1 hsites).1 (List.mem_map_of_mem ht)
      rw [hall t (List.mem_cons_of_mem _ ht), List.count_cons_of_ne hne]

end Takes

/-- What is tried for a site whose raw ID is free. -/
theorem Site.attempt_of_notMem {s : Site} {taken : TakenIds} (h : s.rawId ∉ taken.map (·.1)) :
    (do s.normalize (← s.chooseId taken) : Report NormalizeError Model.Operation) =
      s.normalize s.rawId := by
  rw [s.chooseId_of_notMem h]
  rfl

/-- What is tried for a site whose raw ID is taken. -/
theorem Site.attempt_of_mem {s : Site} {taken : TakenIds}
    (hlenient : s.config.strictOperationIds = false) (h : s.rawId ∈ taken.map (·.1)) :
    ∃ message, (do s.normalize (← s.chooseId taken) : Report NormalizeError Model.Operation) =
      ⟨⟨.duplicateOperationId, message, s.idLocation⟩ ::
          (s.normalize (freshId taken s.rawId)).diagnostics,
        (s.normalize (freshId taken s.rawId)).result⟩ := by
  obtain ⟨message, hchosen⟩ := s.chooseId_of_mem hlenient h
  exact ⟨message, by rw [hchosen]; rfl⟩

/-- Operations that all normalize take one ID after the other, and what is reported about IDs are the
places of those that are renamed. -/
theorem takes_normalizeSites (taken : TakenIds) (sites : List Site)
    (hlenient : ∀ s ∈ sites, s.config.strictOperationIds = false)
    (hplain : ∀ s ∈ sites, ∀ id, duplicates (s.normalize id).diagnostics = [])
    (hok : (normalizeSites taken sites).1.report.result = .ok ()) :
    Takes (taken.map (·.1)) sites (normalizeSites taken sites).1.operations
      ((duplicates (normalizeSites taken sites).1.report.diagnostics).map (·.location)) := by
  induction sites generalizing taken with
  | nil => exact .done _
  | cons s rest ih =>
    -- The ID that the operation gets is taken for all after it, whichever it is.
    have hrest : ∀ {id o}, (s.normalize id).result = .ok o →
        (normalizeSites ((o.id, s.label) :: taken) rest).1.report.result = .ok () →
        Takes (id :: taken.map (·.1)) rest
          (normalizeSites ((o.id, s.label) :: taken) rest).1.operations
          ((duplicates (normalizeSites ((o.id, s.label) :: taken) rest).1.report.diagnostics).map
            (·.location)) := by
      intro id o ho hok
      cases (Site.fields_of_normalize ho).1
      exact ih _ (fun t ht => hlenient t (List.mem_cons_of_mem _ ht))
        (fun t ht => hplain t (List.mem_cons_of_mem _ ht)) hok
    rw [normalizeSites] at hok ⊢
    by_cases hmem : s.rawId ∈ taken.map (·.1)
    · -- The raw ID is taken: this is recorded once, and a fresh ID stands in for it.
      obtain ⟨message, hattempt⟩ := s.attempt_of_mem (hlenient s List.mem_cons_self) hmem
      obtain ⟨⟨n, hn, hid⟩, hfree⟩ := freshId_spec taken s.rawId
      have hown := hplain s List.mem_cons_self (freshId taken s.rawId)
      dsimp only at hok ⊢
      rw [hattempt] at hok ⊢
      dsimp only at hok ⊢
      cases ho : (s.normalize (freshId taken s.rawId)).result with
      | error e =>
        rw [ho] at hok
        cases hok
      | ok o =>
        rw [ho] at hok
        dsimp only at hok ⊢
        rw [List.cons_append, duplicates, List.filter_cons_of_pos (by rfl)]
        have h := duplicates_append (s.normalize (freshId taken s.rawId)).diagnostics
          (normalizeSites ((o.id, s.label) :: taken) rest).1.report.diagnostics
        rw [hown, List.nil_append] at h
        rw [List.map_cons, ← duplicates, h]
        exact .renamed n hmem hn hid hfree ho (hrest ho hok)
    · have hattempt := s.attempt_of_notMem hmem
      have hown := hplain s List.mem_cons_self s.rawId
      dsimp only at hok ⊢
      rw [hattempt] at hok ⊢
      cases ho : (s.normalize s.rawId).result with
      | error e =>
        rw [ho] at hok
        cases hok
      | ok o =>
        rw [ho] at hok
        dsimp only at hok ⊢
        rw [duplicates_append, hown, List.nil_append]
        exact .raw hmem ho (hrest ho hok)

/-! ## The IDs of a document -/

/-- The diagnostics and errors that say nothing about operation IDs are all that there is besides. -/
theorem allowed_withoutDuplicates :
    Report.Allowed (·.kind ≠ .duplicateOperationId)
      (fun e => ∀ id first second, e ≠ .duplicateOperationId id first second) :=
  ⟨⟨fun _ h _ => h, fun _ _ _ _ _ => nofun⟩, fun _ hkind h => nomatch hkind.symm.trans h⟩

/-- No schema says anything about operation IDs. -/
theorem confined_withoutDuplicates (d : Document) :
    d.Confined (·.kind ≠ .duplicateOperationId)
      (fun e => ∀ id first second, e ≠ .duplicateOperationId id first second) :=
  d.confined_of_endless allowed_withoutDuplicates.unresolved (fun _ _ _ => nofun)
    allowed_withoutDuplicates.skipped

/-- Nor does an operation that has been given its ID. -/
theorem Site.duplicates_normalize (s : Site) (id : String) :
    duplicates (s.normalize id).diagnostics = [] := by
  rw [duplicates_eq_nil_iff]
  exact (s.confined_normalize allowed_withoutDuplicates s.document.confined_withoutDuplicates
    id).recorded

theorem duplicates_components (d : Document) (config : Config) :
    duplicates ((Session.start d config).components d.schemas).1.diagnostics = [] := by
  rw [duplicates_eq_nil_iff]
  exact (Session.confined_components (s := .start d config) d.confined_withoutDuplicates
    (fun _ h => absurd h List.not_mem_nil) d.schemas).1

/-- The place of an ID tells the path and the method. -/
theorem Site.of_idLocation_eq {s t : Site} (h : s.idLocation = t.idLocation) :
    s.path = t.path ∧ s.method = t.method := by
  have hlocation : ∀ u : Site, u.idLocation =
      "#" ++ Pointer.text ⟨["paths", u.path, u.method.name, "operationId"]⟩ := by
    intro u
    unfold idLocation Site.location Site.pathLocation ApiShape.locate
    rw [String.append_assoc, String.append_assoc, Pointer.text_append, Pointer.text_append]
    rfl
  rw [hlocation, hlocation, String.append_right_inj] at h
  have hsegments := congrArg Pointer.segments (Pointer.text_injective h)
  simp only [List.cons.injEq, and_true, true_and] at hsegments
  refine ⟨hsegments.1, ?_⟩
  have hname := hsegments.2
  cases hs : s.method <;> cases ht : t.method <;> rw [hs, ht] at hname <;>
    first | rfl | exact absurd hname (by decide)

theorem map_operationSites (d : Document) (config : Config) :
    (d.operationSites config).map (fun s => (s.path, s.method)) =
      d.paths.flatMap fun e => e.2.operations.map fun x => (e.1, x.1) := by
  unfold operationSites sitesFrom sites
  rw [List.map_flatMap]
  simp only [List.map_map]
  rfl

/-- No two operations of a document have the same path and method. -/
theorem nodup_operationSites {d : Document} (hpaths : Dict.Distinct d.paths) (config : Config) :
    ((d.operationSites config).map fun s => (s.path, s.method)).Nodup := by
  rw [map_operationSites, List.nodup_flatMap]
  constructor
  · intro e _
    have h := e.2.nodup_operations
    have hmap : e.2.operations.map (fun x => (e.1, x.1)) =
        (e.2.operations.map (·.1)).map (Prod.mk e.1) := by
      rw [List.map_map]
      rfl
    rw [hmap]
    exact h.map (Prod.mk_right_injective e.1)
  · refine (List.pairwise_map.1 hpaths).imp ?_
    intro e f hne x hx hy
    obtain ⟨_, -, rfl⟩ := List.mem_map.1 hx
    obtain ⟨_, -, heq⟩ := List.mem_map.1 hy
    exact hne (congrArg Prod.fst heq).symm

theorem nodup_idLocation {d : Document} (hpaths : Dict.Distinct d.paths) (config : Config) :
    ((d.operationSites config).map (·.idLocation)).Nodup := by
  have h := nodup_operationSites hpaths config
  rw [List.Nodup, List.pairwise_map] at h ⊢
  refine h.imp ?_
  intro s t hne heq
  obtain ⟨hpath, hmethod⟩ := Site.of_idLocation_eq heq
  exact hne (Prod.ext hpath hmethod)

/-- The operations of a normalized document are those of the document: under each path that has any,
one for each of its methods, in order. Their IDs are pairwise different. Each operation has its raw
ID, and then nothing is reported at the place of its ID, or the raw ID and a number from 2 on, and then
one duplicate is reported there. -/
theorem operations_normalize {d : Document} {config : Config} {r : Normalized}
    (hpaths : Dict.Distinct d.paths) (hlenient : config.strictOperationIds = false)
    (h : d.normalize config = .ok r) :
    r.model.paths.map (fun e => (e.1, e.2.map (·.method))) =
        (d.paths.map fun e => (e.1, e.2.operations.map (·.1))).filter (!·.2.isEmpty) ∧
      (r.model.operations.map (·.id)).Nodup ∧
      List.Forall₂ (fun s o => (s.normalize o.id).result = .ok o ∧
          o.path = s.path ∧ o.method = s.method ∧
          Takes.Given ((duplicates r.diagnostics).map (·.location)) s o)
        (d.operationSites config) r.model.operations := by
  obtain ⟨hok, hmodel, hdiagnostics⟩ := parts_of_normalize h
  obtain ⟨hoperations, hresult, hduplicates⟩ := d.matches_normalizePathsFrom config [] d.paths
  change (d.normalizePaths config).operations = _ at hoperations
  -- All the operations are normalized, one after the other.
  have htakes := takes_normalizeSites [] (d.operationSites config)
    (fun s hs => (mem_operationSites hs).2 ▸ hlenient) (fun s _ => s.duplicates_normalize)
    (hresult.symm.trans hok)
  have hreported : duplicates r.diagnostics =
      duplicates (normalizeSites [] (d.operationSites config)).1.report.diagnostics := by
    rw [hdiagnostics, duplicates_append, duplicates_components, List.nil_append]
    exact hduplicates
  have hgiven := htakes.forall₂ (nodup_idLocation hpaths config)
    ((duplicates r.diagnostics).map (·.location)) fun s _ => by rw [hreported]
  have hfields : List.Forall₂ (fun s o => (s.normalize o.id).result = .ok o ∧
      o.path = s.path ∧ o.method = s.method ∧
      Takes.Given ((duplicates r.diagnostics).map (·.location)) s o)
      (d.operationSites config) (d.normalizePaths config).operations := by
    rw [hoperations]
    refine hgiven.imp ?_
    intro s o ho
    obtain ⟨-, hpath, hmethod⟩ := Site.fields_of_normalize ho.1
    exact ⟨ho.1, hpath, hmethod, ho.2⟩
  -- So their paths and methods are those of the document, and they are added in this order.
  have hmap : (d.normalizePaths config).operations.map (fun o => (o.path, o.method)) =
      d.paths.flatMap fun e => e.2.operations.map fun x => (e.1, x.1) := by
    rw [← d.map_operationSites config]
    exact (map_eq_of_forall₂ hfields fun s o ho => Prod.ext ho.2.1.symm ho.2.2.1.symm).symm
  have hempty : ((Session.start d config).components d.schemas).1.model.paths = [] :=
    Session.paths_components _ _
  obtain ⟨blocks, hblocks, hflat, hmethods⟩ := paths_foldl_insertOperation hpaths hmap
    (m := ((Session.start d config).components d.schemas).1.model)
    (fun path _ => by rw [hempty]; exact List.not_mem_nil)
  rw [hempty, List.nil_append, ← hmodel] at hblocks
  have hall : r.model.operations = (d.normalizePaths config).operations := by
    unfold Model.operations
    rw [hblocks, hflat]
  refine ⟨?_, ?_, ?_⟩
  · rw [hblocks, hmethods]
  · rw [hall, hoperations]
    exact htakes.nodup.1
  · rw [hall]
    exact hfields

/-- Three operations of which the second repeats the ID of the first, and the third has the ID that the
second is given instead. -/
def queueDocument : Document :=
  { paths := [
      ("/queue", {
        get := some { operationId := some "queue" }
        put := some { operationId := some "queue" } }),
      ("/empty", {}),
      ("/queue/{id}", { get := some { operationId := some "queue2" } })] }

theorem operations_normalize_queue : Dict.Distinct queueDocument.paths ∧
    ∃ r, queueDocument.normalize {} = .ok r ∧
      r.model.operations.map (·.id) = ["queue", "queue2", "queue22"] ∧
      (duplicates r.diagnostics).map (·.location) =
        ["#/paths/~1queue/put/operationId", "#/paths/~1queue~1{id}/get/operationId"] ∧
      r.model.paths.map (fun e => (e.1, e.2.map (·.method))) =
        [("/queue", [.get, .put]), ("/queue/{id}", [.get])] ∧
      (r.model.operations.map (·.id)).Nodup ∧
      List.Forall₂ (fun s o => (s.normalize o.id).result = .ok o ∧
          o.path = s.path ∧ o.method = s.method ∧
          Takes.Given ((duplicates r.diagnostics).map (·.location)) s o)
        (queueDocument.operationSites {}) r.model.operations := by
  have hpaths : Dict.Distinct queueDocument.paths := by decide
  have hrun : (queueDocument.normalize {}).toOption.map (fun r =>
      (r.model.operations.map (·.id), (duplicates r.diagnostics).map (·.location))) =
      some (["queue", "queue2", "queue22"],
        ["#/paths/~1queue/put/operationId", "#/paths/~1queue~1{id}/get/operationId"]) := by
    decide +kernel
  obtain ⟨r, hr, hids⟩ := Option.map_eq_some_iff.1 hrun
  have hok := eq_ok_of_toOption hr
  obtain ⟨hmethods, hnodup, hgiven⟩ := operations_normalize hpaths rfl hok
  exact ⟨hpaths, r, hok, congrArg Prod.fst hids, congrArg Prod.snd hids, hmethods, hnodup, hgiven⟩

end Document

end ApiShape
