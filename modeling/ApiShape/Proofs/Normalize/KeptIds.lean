import ApiShape.Proofs.Normalize.OperationIds

/-!
# Operation IDs that are kept

An operation whose ID no other operation has keeps it, unless an operation before it repeats some
other ID and is renamed to just this one: IDs are given in one pass, and a successor is free as long as
no operation so far has it.
-/

namespace ApiShape.Document

/-! ## One operation among the others -/

namespace Takes

variable {taken renamed : List String} {before after sites : List Site} {s : Site}
  {os earlier later : List Model.Operation} {o : Model.Operation} {id : String}

/-- What the operations of some sites take, those of others after them find taken. -/
theorem split (h : Takes taken (before ++ after) os renamed) :
    ∃ earlier later renamed₁ renamed₂, os = earlier ++ later ∧ renamed = renamed₁ ++ renamed₂ ∧
      Takes taken before earlier renamed₁ ∧
      Takes ((earlier.map (·.id)).reverse ++ taken) after later renamed₂ := by
  induction before generalizing taken os renamed with
  | nil => exact ⟨[], os, [], renamed, rfl, rfl, .done _, h⟩
  | cons t rest ih =>
    -- The ID of the first operation stands in front of those taken before, whichever it is.
    have htaken : ∀ {o : Model.Operation} {earlier : List Model.Operation} {id : String},
        (t.normalize id).result = .ok o →
        ((o :: earlier).map (·.id)).reverse ++ taken =
          (earlier.map (·.id)).reverse ++ id :: taken := by
      intro o earlier id ho
      rw [List.map_cons, List.reverse_cons, List.append_assoc, (Site.fields_of_normalize ho).1]
      rfl
    cases h with
    | @raw _ _ o _ _ _ hfree ho hrest =>
      obtain ⟨earlier, later, renamed₁, renamed₂, rfl, rfl, hearlier, hlater⟩ := ih hrest
      refine ⟨o :: earlier, later, renamed₁, renamed₂, rfl, rfl, .raw hfree ho hearlier, ?_⟩
      rw [htaken ho]
      exact hlater
    | @«renamed» _ _ o _ _ _ id n hmem hn hid hfree ho hrest =>
      obtain ⟨earlier, later, renamed₁, renamed₂, rfl, rfl, hearlier, hlater⟩ := ih hrest
      refine ⟨o :: earlier, later, t.idLocation :: renamed₁, renamed₂, rfl, rfl,
        .renamed n hmem hn hid hfree ho hearlier, ?_⟩
      rw [htaken ho]
      exact hlater

/-- Every operation has the path and the method of its site, and its raw ID or a successor of it. -/
theorem forall₂_id (h : Takes taken sites os renamed) :
    List.Forall₂ (fun s o => o.path = s.path ∧ o.method = s.method ∧
      (o.id = s.rawId ∨ ∃ n, 2 ≤ n ∧ o.id = s.rawId ++ toString n)) sites os := by
  induction h with
  | done => exact .nil
  | raw _ ho _ ih =>
    obtain ⟨hid, hpath, hmethod⟩ := Site.fields_of_normalize ho
    exact .cons ⟨hpath, hmethod, .inl hid⟩ ih
  | «renamed» n _ hn hid _ ho _ ih =>
    obtain ⟨hsame, hpath, hmethod⟩ := Site.fields_of_normalize ho
    exact .cons ⟨hpath, hmethod, .inr ⟨n, hn, hsame.trans hid⟩⟩ ih

/-- The operation of the first site keeps the raw ID and is not reported exactly if this is free. -/
theorem keeps_iff (h : Takes taken (s :: after) (o :: later) renamed)
    (hafter : s.idLocation ∉ after.map (·.idLocation)) :
    o.id = s.rawId ∧ s.idLocation ∉ renamed ↔ s.rawId ∉ taken := by
  cases h with
  | raw hfree ho hrest =>
    refine iff_of_true ⟨(Site.fields_of_normalize ho).1, ?_⟩ hfree
    exact fun hmem => hafter (hrest.renamed_subset hmem)
  | «renamed» n hmem _ _ _ _ _ =>
    refine iff_of_false ?_ (not_not_intro hmem)
    exact fun hkept => hkept.2 List.mem_cons_self

end Takes

/-! ## Documents -/

/-- The operations of a document take their IDs one after the other, in its model and among what is
reported. -/
theorem takes_operations {d : Document} {config : Config} {r : Normalized}
    (hpaths : Dict.Distinct d.paths) (hlenient : config.strictOperationIds = false)
    (h : d.normalize config = .ok r) :
    Takes [] (d.operationSites config) r.model.operations
      ((duplicates r.diagnostics).map (·.location)) := by
  obtain ⟨hok, hmodel, hdiagnostics⟩ := parts_of_normalize h
  obtain ⟨hoperations, hresult, hduplicates⟩ := d.matches_normalizePathsFrom config [] d.paths
  change (d.normalizePaths config).operations =
    (normalizeSites [] (d.operationSites config)).1.operations at hoperations
  have htakes := takes_normalizeSites [] (d.operationSites config)
    (fun s hs => (mem_operationSites hs).2 ▸ hlenient) (fun s _ => s.duplicates_normalize)
    (hresult.symm.trans hok)
  have hreported : duplicates r.diagnostics =
      duplicates (normalizeSites [] (d.operationSites config)).1.report.diagnostics := by
    rw [hdiagnostics, duplicates_append, duplicates_components, List.nil_append]
    exact hduplicates
  -- They are added to the model in this order, and are all that it holds.
  have hmap : (normalizeSites [] (d.operationSites config)).1.operations.map
      (fun o => (o.path, o.method)) =
      d.paths.flatMap fun e => e.2.operations.map fun x => (e.1, x.1) := by
    rw [← d.map_operationSites config]
    exact (map_eq_of_forall₂ htakes.forall₂_id fun s o ho => Prod.ext ho.1.symm ho.2.1.symm).symm
  have hempty : ((Session.start d config).components d.schemas).1.model.paths = [] :=
    Session.paths_components _ _
  obtain ⟨blocks, hblocks, hflat, -⟩ := paths_foldl_insertOperation hpaths hmap
    (m := ((Session.start d config).components d.schemas).1.model)
    (fun path _ => by rw [hempty]; exact List.not_mem_nil)
  have hall : r.model.operations = (normalizeSites [] (d.operationSites config)).1.operations := by
    unfold Model.operations
    rw [hmodel, hoperations, hblocks, hempty, List.nil_append, hflat]
  rw [hall, hreported]
  exact htakes

/-- An operation with an ID of its own, which is the raw ID of no other, keeps it and is not reported
exactly if no operation before it has been renamed to this ID. One that has is a repetition, whose raw
ID is another, of which this ID is a successor. -/
theorem keeps_operationId_iff {d : Document} {config : Config} {r : Normalized}
    {before after : List Site} {s : Site} {id : String} (hpaths : Dict.Distinct d.paths)
    (hlenient : config.strictOperationIds = false) (h : d.normalize config = .ok r)
    (hsites : d.operationSites config = before ++ s :: after)
    (hid : s.operation.operationId = some id) (hunique : ∀ t ∈ before ++ after, t.rawId ≠ id) :
    ∃ earlier o later, r.model.operations = earlier ++ o :: later ∧
      o.path = s.path ∧ o.method = s.method ∧
      (o.id = id ∧ s.idLocation ∉ (duplicates r.diagnostics).map (·.location) ↔
        ∀ p ∈ earlier, p.id ≠ id) ∧
      List.Forall₂ (fun t p => p.path = t.path ∧ p.method = t.method ∧
        (p.id = id → t.rawId ≠ id ∧ ∃ n, 2 ≤ n ∧ id = t.rawId ++ toString n)) before earlier := by
  have hraw : s.rawId = id := by
    unfold Site.rawId
    rw [hid, Option.getD_some]
  have htakes := takes_operations hpaths hlenient h
  rw [hsites] at htakes
  obtain ⟨earlier, later, renamed₁, renamed₂, hoperations, hrenamed, hearlier, hlater⟩ :=
    htakes.split
  obtain ⟨o, later, ⟨hpath, hmethod, -⟩, -, rfl⟩ :=
    List.forall₂_cons_left_iff.1 hlater.forall₂_id
  -- The sites lie at different places, so what is reported of others is not reported here.
  have hplaces := nodup_idLocation hpaths config
  rw [hsites, List.map_append, List.map_cons, List.nodup_append, List.nodup_cons] at hplaces
  obtain ⟨-, ⟨hafter, -⟩, hbefore⟩ := hplaces
  have hother : s.idLocation ∉ renamed₁ := fun hmem =>
    hbefore _ (hearlier.renamed_subset hmem) _ List.mem_cons_self rfl
  refine ⟨earlier, o, later, hoperations, hpath, hmethod, ?_, ?_⟩
  · have hkeeps := hlater.keeps_iff hafter
    rw [hraw, List.append_nil, List.mem_reverse, List.mem_map, not_exists] at hkeeps
    rw [hrenamed, List.mem_append, not_or, and_iff_right hother, hkeeps]
    exact ⟨fun hnone p hp heq => hnone p ⟨hp, heq⟩, fun hnone p hp => hnone p hp.1 hp.2⟩
  · refine List.forall₂_iff_zip.2 ⟨hearlier.forall₂_id.length_eq, fun {t p} htp => ?_⟩
    obtain ⟨hpath, hmethod, hgiven⟩ := (List.forall₂_iff_zip.1 hearlier.forall₂_id).2 htp
    refine ⟨hpath, hmethod, fun hp => ?_⟩
    have hne : t.rawId ≠ id := hunique t (List.mem_append_left _ (List.of_mem_zip htp).1)
    rcases hgiven with hsame | ⟨n, hn, hsuccessor⟩
    · exact absurd (hsame.symm.trans hp) hne
    · exact ⟨hne, n, hn, hp.symm.trans hsuccessor⟩

/-- Two operations with one ID, and a third whose ID is a successor of it, but not the first. -/
def harborDocument : Document :=
  { paths := [
      ("/berth", {
        get := some { operationId := some "dock" }
        put := some { operationId := some "dock" } }),
      ("/ship", { get := some { operationId := some "dock3" } })] }

theorem keeps_operationId_iff_harbor :
    ∃ r before s, harborDocument.normalize {} = .ok r ∧
      harborDocument.operationSites {} = before ++ s :: [] ∧
      s.operation.operationId = some "dock3" ∧ (∀ t ∈ before ++ [], t.rawId ≠ "dock3") ∧
      ∃ earlier o later, r.model.operations = earlier ++ o :: later ∧
        o.path = s.path ∧ o.method = s.method ∧
        (o.id = "dock3" ∧ s.idLocation ∉ (duplicates r.diagnostics).map (·.location) ↔
          ∀ p ∈ earlier, p.id ≠ "dock3") ∧
        List.Forall₂ (fun t p => p.path = t.path ∧ p.method = t.method ∧
          (p.id = "dock3" → t.rawId ≠ "dock3" ∧ ∃ n, 2 ≤ n ∧ "dock3" = t.rawId ++ toString n))
          before earlier := by
  have hpaths : Dict.Distinct harborDocument.paths := by decide
  have hrun : (harborDocument.normalize {}).toOption.isSome = true := by decide +kernel
  obtain ⟨r, hr⟩ := Option.isSome_iff_exists.1 hrun
  have hok := eq_ok_of_toOption hr
  have hunique : ∀ t ∈ (harborDocument.operationSites {}).take 2 ++ [], t.rawId ≠ "dock3" := by
    decide +kernel
  exact ⟨r, (harborDocument.operationSites {}).take 2, _, hok, rfl, rfl, hunique,
    keeps_operationId_iff hpaths rfl hok rfl rfl hunique⟩

/-- The ID of the third operation of the queue is the raw ID of no other, but the second operation,
which repeats the ID of the first, has been renamed to it: the third is renamed and reported in turn. -/
theorem not_keeps_operationId_queue :
    ∃ r before s, queueDocument.normalize {} = .ok r ∧
      queueDocument.operationSites {} = before ++ s :: [] ∧
      s.operation.operationId = some "queue2" ∧ (∀ t ∈ before ++ [], t.rawId ≠ "queue2") ∧
      r.model.operations.map (fun o => (o.path, o.method, o.id)) =
        [("/queue", .get, "queue"), ("/queue", .put, "queue2"), (s.path, s.method, "queue22")] ∧
      s.idLocation ∈ (duplicates r.diagnostics).map (·.location) := by
  have hrun : (queueDocument.normalize {}).toOption.map (fun r =>
      (r.model.operations.map (fun o => (o.path, o.method, o.id)),
        (duplicates r.diagnostics).map (·.location))) =
      some ([("/queue", .get, "queue"), ("/queue", .put, "queue2"), ("/queue/{id}", .get, "queue22")],
        ["#/paths/~1queue/put/operationId", "#/paths/~1queue~1{id}/get/operationId"]) := by
    decide +kernel
  obtain ⟨r, hr, hids⟩ := Option.map_eq_some_iff.1 hrun
  have hunique : ∀ t ∈ (queueDocument.operationSites {}).take 2 ++ [], t.rawId ≠ "queue2" := by
    decide +kernel
  refine ⟨r, (queueDocument.operationSites {}).take 2, _, eq_ok_of_toOption hr, rfl, rfl, hunique,
    congrArg Prod.fst hids, ?_⟩
  rw [(Prod.mk.inj hids).2]
  decide +kernel

end ApiShape.Document
