import ApiShape.Proofs.Document.Detours
import ApiShape.Proofs.Document.DistinctKeys
import ApiShape.Proofs.Normalize.Sites

/-!
# The locations that a normalization goes through

A normalization carries the location of every schema that it comes to. From the named schemas and the
operations on, through properties, branches and ancestors, each is where the schema lies, apart from
detours.
-/

namespace ApiShape

namespace Document

variable {d : Document} {t u : Target} {location : String} {s : Schema}

/-- The location is the text of segments that lead to the part, apart from detours. -/
def Locates (d : Document) (location : String) (t : Target) : Prop :=
  ∃ p, location = "#" ++ Pointer.text ⟨p⟩ ∧ d.Heads p t

theorem locate_text (p segments : List String) :
    locate ("#" ++ Pointer.text ⟨p⟩) segments = "#" ++ Pointer.text ⟨p ++ segments⟩ := by
  unfold locate
  rw [String.append_assoc, Pointer.text_append]

theorem Locates.of_heads {segments : List String} (h : d.Locates location t)
    (hparts : ∀ p, d.Heads p t → d.Heads (p ++ segments) u) :
    d.Locates (locate location segments) u := by
  obtain ⟨p, rfl, ht⟩ := h
  exact ⟨p ++ segments, locate_text p segments, hparts p ht⟩

theorem locate_pair (location first second : String) :
    locate location [first, second] =
      location ++ ("/" ++ Pointer.escape first ++ "/") ++ Pointer.escape second := by
  unfold locate
  rw [Pointer.text_cons, Pointer.text_cons, Pointer.text_nil]
  simp only [String.append_assoc, String.append_empty]

/-! ## Ancestors -/

theorem exists_of_mem_branchesFrom {places : List (RefOr Schema)} {i : Nat} {b : Branch}
    (h : b ∈ Schema.branchesFrom location i places) :
    ∃ j, (b.place, j) ∈ places.zipIdx i ∧ b.location = locate location ["allOf", toString j] := by
  induction places generalizing i with
  | nil => cases h
  | cons place rest ih =>
    rw [List.zipIdx_cons]
    rcases List.mem_cons.1 h with rfl | h
    · refine ⟨i, List.mem_cons_self, ?_⟩
      rw [locate_pair, Pointer.escape_toString]
      rfl
    · obtain ⟨j, hj, hlocation⟩ := ih h
      exact ⟨j, List.mem_cons_of_mem _ hj, hlocation⟩

theorem Locates.branch (h : d.Locates location (.schema s)) {b : Branch}
    (hb : b ∈ s.branches location) : d.Locates b.location (Target.atSchema b.place) := by
  obtain ⟨i, hplace, hlocation⟩ := exists_of_mem_branchesFrom hb
  cases hallOf : s.allOf with
  | none =>
    rw [hallOf] at hplace
    cases hplace
  | some branches =>
    rw [hallOf] at hplace
    rw [hlocation]
    exact h.of_heads fun p hp => hp.branch (by simp [hallOf]) hplace

theorem locates_target {r : Ref} (h : d.resolve Schema r = .ok s) (otherwise : String) :
    d.Locates (locationOf r otherwise) (.schema s) := by
  obtain ⟨q, hq, hs⟩ := heads_of_resolve h
  refine ⟨q.segments, ?_, hs⟩
  unfold locationOf
  rw [hq]

/-- What the search for ancestors finds lies where it says, as the branches do. -/
theorem Visits.locates {met left : List String} {branches : List Branch} {found : List Ancestor}
    (h : d.Visits met branches found left)
    (hbranches : ∀ b ∈ branches, d.Locates b.location (Target.atSchema b.place)) :
    ∀ a ∈ found, d.Locates a.location (.schema a.schema) := by
  induction h with
  | done => exact List.forall_mem_nil _
  | inline _ _ ihabove ihbeside =>
    rw [List.forall_mem_cons] at hbranches
    have hs : d.Locates _ (.schema _) := hbranches.1
    simp only [List.cons_append, List.forall_mem_cons, List.forall_mem_append]
    exact ⟨hs, ihabove fun b hb => hs.branch hb, ihbeside hbranches.2⟩
  | @target _ _ _ _ _ location _ _ _ _ hs _ _ ihabove ihbeside =>
    rw [List.forall_mem_cons] at hbranches
    have hs := locates_target hs location
    simp only [List.cons_append, List.forall_mem_cons, List.forall_mem_append]
    exact ⟨hs, ihabove fun b hb => hs.branch hb, ihbeside hbranches.2⟩
  | dangling _ _ _ ih | again _ _ ih =>
    rw [List.forall_mem_cons] at hbranches
    exact ih hbranches.2

theorem Locates.inherited (h : d.Locates location (.schema s)) {name : String} {found : Inherited}
    (hfound : d.inheritedProperty? s location name = some found) :
    d.Locates found.location (Target.atSchema found.property) := by
  obtain ⟨a, ⟨earlier, later, left, hvisits, -, hproperty⟩, hlocation⟩ :=
    firstDeclares_of_inheritedProperty? hfound
  have ha : d.Locates a.location (.schema a.schema) :=
    hvisits.locates (fun b hb => h.branch hb) a (by simp)
  have hpair : found.location = locate a.location ["properties", name] := by
    rw [hlocation, locate_pair]
    rfl
  obtain ⟨named, hnamed, hget⟩ := Option.bind_eq_some_iff.1 hproperty
  rw [hpair]
  refine ha.of_heads fun p hp => ?_
  have hproperties : d.Heads (p ++ ["properties"]) (.schemas named) :=
    hp.optional hnamed rfl rfl
  have hentry : d.Heads (p ++ ["properties"] ++ [name]) (Target.atSchema found.property) := by
    refine hproperties.key rfl ?_
    have hmap : Dict.get? (Target.entries Target.atSchema named) name =
        (Dict.get? named name).map Target.atSchema := Dict.get?_map Target.atSchema named name
    rw [hmap, hget]
    rfl
  rwa [List.append_assoc] at hentry

/-! ## Schemas -/

/-- What the normalization of a schema asks for lies where it says, if the schema does. -/
theorem Asks.locates {place : RefOr Schema} {next : String} (hasks : d.Asks s location place next)
    (hd : d.DistinctNames) (h : d.Locates location (.schema s)) :
    d.Locates next (Target.atSchema place) := by
  cases hasks with
  | property hmem => exact h.of_heads fun p hp => hp.property hd hmem
  | additional hplace => exact h.of_heads fun p hp => hp.additional hplace
  | item hplace => exact h.of_heads fun p hp => hp.items hplace
  | branch hkeyword hplace => exact h.of_heads fun p hp => hp.branch hkeyword hplace
  | inherited hfound => exact h.inherited hfound

theorem Heads.valueAt {α : Type} [Component α] {kind : ComponentKind} {part : α → Target}
    {place : RefOr α} {a : α} {p : List String} (h : d.Heads p (Target.atPlace kind part place))
    (ha : (d.valueAt α place).result = .ok a) :
    (place = .inline a ∧ d.Heads p (part a)) ∨ d.Detours ⟨p⟩ := by
  refine h.inline.imp_left ?_
  rintro ⟨b, rfl, hb⟩
  cases ha
  exact ⟨rfl, hb⟩

theorem mem_of_pick? {α : Type} {config : Config} {mediaType : α → String} {choices : List α} {a : α}
    (h : config.pick? mediaType choices = some a) : a ∈ choices := by
  unfold Config.pick? at h
  dsimp only at h
  suffices hfold : ∀ (better : Option α → α → Option α),
      (∀ best choice, better best choice = some choice ∨ better best choice = best) →
      ∀ (rest : List α) (best : Option α), rest.foldl better best = some a → a ∈ rest ∨ best = some a by
    refine (hfold _ ?_ choices none h).resolve_right nofun
    intro best choice
    cases best with
    | none => exact .inl rfl
    | some b =>
      dsimp only
      split
      · exact .inl rfl
      · exact .inr rfl
  intro better hbetter rest
  induction rest with
  | nil => exact fun _ h => .inr h
  | cons choice rest ih =>
    intro best h
    rcases ih _ h with hmem | hbest
    · exact .inl (List.mem_cons_of_mem _ hmem)
    · rcases hbetter best choice with hchoice | hsame
      · rw [hchoice] at hbest
        exact .inl (Option.some.inj hbest ▸ List.mem_cons_self)
      · exact .inr (hsame.symm.trans hbest)

/-- The schema of what is preferred among what is sent. -/
theorem Heads.content {x : Site} {p : List String} {content : List (String × MediaType)}
    {mediaType : String} {m : MediaType} {schema : RefOr Schema} (h : d.Heads p (.content content))
    (hdistinct : Dict.Distinct content) (hm : x.preferredContent? content = some (mediaType, m))
    (hschema : m.schema = some schema) :
    d.Heads (p ++ [mediaType, "schema"]) (Target.atSchema schema) := by
  have hmedia : d.Heads (p ++ [mediaType]) (.mediaType m) :=
    h.entry rfl hdistinct (mem_of_pick? hm)
  have hpart : d.Heads (p ++ [mediaType] ++ ["schema"]) (Target.atSchema schema) :=
    hmedia.optional hschema rfl rfl
  rwa [List.append_assoc] at hpart

namespace Site

variable {config : Config} {x : Site}

theorem locates_item (hd : d.Keyed) (hx : x ∈ d.operationSites config) :
    d.Locates x.pathLocation (.pathItem x.item) ∧
      d.Locates x.location (.operation x.operation) ∧ x.operation.Keyed := by
  obtain ⟨⟨path, item⟩, hitem, hx⟩ := List.mem_flatMap.1 hx
  obtain ⟨⟨method, operation⟩, hoperation, rfl⟩ := List.mem_map.1 hx
  obtain ⟨method', -, hmethod⟩ := List.mem_filterMap.1 hoperation
  obtain ⟨operation', hget, heq⟩ := Option.map_eq_some_iff.1 hmethod
  obtain ⟨rfl, rfl⟩ := Prod.mk.inj heq
  have hdocument : d.Locates "#" (.document d) := ⟨[], rfl, .inl rfl⟩
  have hpath : d.Locates (locate "#" ["paths", path]) (.pathItem item) := by
    refine hdocument.of_heads fun p hp => ?_
    have hpaths : d.Heads (p ++ ["paths"]) (.pathItems d.paths) := hp.key rfl rfl
    have hentry := hpaths.entry rfl hd.paths hitem
    rwa [List.append_assoc] at hentry
  refine ⟨hpath, ?_, hd.items _ hitem _ _ hget⟩
  refine hpath.of_heads fun p hp => ?_
  cases method' <;> exact hp.optional hget rfl rfl

theorem Lists.locates {p : Located} (h : x.Lists p) (hx : x.document = d)
    (hitem : d.Locates x.pathLocation (.pathItem x.item))
    (hoperation : d.Locates x.location (.operation x.operation)) :
    d.Locates p.location (.parameter p.parameter) := by
  have hparameter : ∀ {q t i} {places : List (RefOr Parameter)} {place : RefOr Parameter}
      {a : Parameter}, d.Heads q t → Pointee.view t = .indexed (places.map Target.atParameter) →
      (place, i) ∈ places.zipIdx → (x.document.valueAt Parameter place).result = .ok a →
      d.Heads (q ++ [toString i]) (.parameter a) := by
    intro q t i places place a ht hview hmem ha
    rw [hx] at ha
    have hplace := ht.item hview hmem
    exact (hplace.valueAt ha).elim And.right .inr
  cases h with
  | path hmem hp =>
    refine hitem.of_heads fun q hq => ?_
    have hlist : d.Heads (q ++ ["parameters"]) (.parameterList x.item.parameters) := hq.key rfl rfl
    have hitem := hparameter hlist rfl hmem hp
    rwa [List.append_assoc] at hitem
  | operation hmem hp =>
    refine hoperation.of_heads fun q hq => ?_
    have hlist : d.Heads (q ++ ["parameters"]) (.parameterList x.operation.parameters) :=
      hq.key rfl rfl
    have hitem := hparameter hlist rfl hmem hp
    rwa [List.append_assoc] at hitem

/-- What the normalization of an operation asks for lies where it says. -/
theorem Asks.locates {place : RefOr Schema} {next : String} (h : x.Asks place next) (hd : d.Keyed)
    (hx : x ∈ d.operationSites config) : d.Locates next (Target.atSchema place) := by
  obtain ⟨hitem, hoperation, hkeyed⟩ := locates_item hd hx
  have hdocument := (mem_operationSites hx).1
  cases h with
  | @parameter a _ ha hschema =>
    refine (ha.locates hdocument hitem hoperation).of_heads fun p hp => ?_
    unfold Parameter.schema? at hschema
    cases hown : a.parameter.schema with
    | some schema =>
      rw [hown] at hschema
      cases hschema
      exact hp.optional hown rfl rfl
    | none => exact hp.of_step fun _ => .inr (.schema hown [])
  | @body bodyPlace b mediaType m schema hplace hb hm hschema =>
    refine hoperation.of_heads fun p hp => ?_
    rw [hdocument] at hb
    have hbody : d.Heads (p ++ ["requestBody"])
        (Target.atPlace .requestBody .requestBody bodyPlace) :=
      hp.optional hplace rfl rfl
    rcases hbody.valueAt hb with ⟨rfl, hinline⟩ | hdetour
    · have hcontent : d.Heads (p ++ ["requestBody"] ++ ["content"]) (.content b.content) :=
        hinline.key rfl rfl
      have hpart := hcontent.content (hkeyed.requestBody _ hplace b rfl) hm hschema
      rwa [List.append_assoc, List.append_assoc] at hpart
    · have hrest := hdetour.append ["content", mediaType, "schema"]
      rw [List.append_assoc] at hrest
      exact .inr hrest
  | @response code responsePlace r mediaType schema _ hplace hr hcontent =>
    rw [hdocument] at hr
    have hlocation : d.Locates (locate x.location ["responses", code])
        (Target.atPlace .response .response responsePlace) := by
      refine hoperation.of_heads fun p hp => ?_
      have hresponses : d.Heads (p ++ ["responses"]) (.operationResponses x.operation.responses) :=
        hp.key rfl rfl
      have hentry := hresponses.entry rfl hkeyed.codes hplace
      rwa [List.append_assoc] at hentry
    unfold responseContent at hcontent
    split at hcontent
    · rename_i content hr'
      split at hcontent
      · rename_i m hm
        obtain ⟨-, hrest⟩ := Prod.mk.inj hcontent
        obtain ⟨hschema, rfl⟩ := Prod.mk.inj hrest
        refine hlocation.of_heads fun p hp => ?_
        rcases hp.valueAt hr with ⟨rfl, hinline⟩ | hdetour
        · have hcontents : d.Heads (p ++ ["content"]) (.content content) :=
            hinline.optional hr' rfl rfl
          have hdistinct := hkeyed.responses _ hplace r rfl content hr'
          have hpart := hcontents.content hdistinct hm hschema
          rwa [List.append_assoc] at hpart
        · exact .inr (hdetour.append _)
      · obtain ⟨-, hrest⟩ := Prod.mk.inj hcontent
        cases (Prod.mk.inj hrest).1
    · obtain ⟨-, hrest⟩ := Prod.mk.inj hcontent
      obtain ⟨hschema, rfl⟩ := Prod.mk.inj hrest
      refine hlocation.of_heads fun p hp => ?_
      rcases hp.valueAt hr with ⟨rfl, hinline⟩ | hdetour
      · exact hinline.optional hschema rfl rfl
      · exact .inr (hdetour.append _)

end Site

end Document

end ApiShape
