import ApiShape.Proofs.Normalize.Agreement

/-!
# What the normalization of an operation reports

An operation reports what the schemas that it needs report, and besides only references that do not
resolve, security schemes that are not there, and responses whose codes mean nothing.
-/

namespace ApiShape

variable {K : Diagnostic → Prop} {E : NormalizeError → Prop}

/-- If what a schema asks for lies where it may lie, whenever the schema does, then a normalization only
reports that it is out of steps, which references do not resolve, and what is said about the enums of
schemas that lie where they may. -/
theorem Document.confined_normalizeWithin (h : Report.MayDangle E) (hend : E .endless) {d : Document}
    (Lies : RefOr Schema → String → Prop)
    (hvalues : ∀ s location values, Lies (.inline s) location → s.enum = some values →
      (s.literals location 0 values : Report NormalizeError (List Node)).Confined K E)
    (hasks : ∀ s location place next, Lies (.inline s) location → d.Asks s location place next →
      Lies place next)
    (steps : Nat) (component : Option String) {place : RefOr Schema} {location : String}
    (hplace : Lies place location) :
    (d.normalizeWithin steps component place location).Confined K E := by
  -- By induction on the steps: a schema takes one, and its parts have the others.
  induction steps generalizing component place location with
  | zero =>
    cases place with
    | ref r =>
      rw [normalizeWithin]
      exact (d.confined_resolved h Schema r).bind fun _ _ => .pure _
    | inline s =>
      rw [normalizeWithin]
      exact .fail hend
  | succ steps ih =>
    cases place with
    | ref r =>
      rw [normalizeWithin]
      exact (d.confined_resolved h Schema r).bind fun _ _ => .pure _
    | inline s =>
      rw [normalizeWithin]
      apply Schema.agree_normalizeLayer h
      · exact fun values => hvalues s location values hplace
      · exact fun next _ location' hnext => ih none (hasks s location next location' hplace hnext)

/-- Whatever schemas report in a document is among given diagnostics and errors. -/
structure Document.Confined (K : Diagnostic → Prop) (E : NormalizeError → Prop) (d : Document) :
    Prop where
  schema : ∀ place location, (d.normalizeSchema place location).Confined K E
  component : ∀ name place location, (d.normalizeComponent name place location).Confined K E

/-- A normalization that is out of steps fails as endless, so otherwise its schemas decide. -/
theorem Document.confined_of_endless (h : Report.MayDangle E) (hend : E .endless)
    (hskipped : ∀ x, x.kind = .unsupportedEnumValueType → K x) (d : Document) : d.Confined K E := by
  have hwithin : ∀ steps component place location,
      (d.normalizeWithin steps component place location).Confined K E :=
    fun steps component place location =>
      confined_normalizeWithin h hend (fun _ _ => True)
        (fun s location values _ _ => Schema.confined_literals hskipped s location 0 values)
        (fun _ _ _ _ _ _ => trivial) steps component trivial
  exact ⟨fun place => hwithin _ none place, fun name place => hwithin _ (some name) place⟩

/-! ## Response maps -/

namespace Model

theorem confined_file (h : ∀ x, x.kind = .unrecognizedStatusCode → K x) (location : String)
    (s : Sorted) (code : String) (n : Node) :
    (s.file location code n : Report NormalizeError Sorted).Confined K E := by
  unfold Sorted.file
  split
  case h_7 => exact (Report.Agree.record (h _ rfl)).bind fun _ _ => .pure s
  all_goals exact .pure _

theorem confined_fileAll (h : ∀ x, x.kind = .unrecognizedStatusCode → K x) (location : String)
    (s : Sorted) (responses : List (String × Response)) :
    (s.fileAll location responses : Report NormalizeError Sorted).Confined K E := by
  induction responses generalizing s with
  | nil => exact .pure s
  | cons e rest ih =>
    obtain ⟨code, r⟩ := e
    exact (confined_file h location s code r.schema).bind fun next _ => ih next

theorem confined_responseMap (h : ∀ x, x.kind = .unrecognizedStatusCode → K x) (config : Config)
    (location : String) (responses : List (String × Response)) :
    (responseMap config location responses : Report NormalizeError ResponseMap).Confined K E :=
  (confined_fileAll h location {} responses).bind fun _ _ => .pure _

end Model

namespace Document.Site

/-! ## What an operation asks for -/

/-- The parameter is one of the path or of the operation, and lies where it is listed. -/
inductive Lists (s : Site) : Located → Prop
  | path {place : RefOr Parameter} {i : Nat} {p : Parameter}
      (h : (place, i) ∈ s.item.parameters.zipIdx)
      (hp : (s.document.valueAt Parameter place).result = .ok p) :
      Lists s ⟨p, locate s.pathLocation ["parameters", toString i]⟩
  | operation {place : RefOr Parameter} {i : Nat} {p : Parameter}
      (h : (place, i) ∈ s.operation.parameters.zipIdx)
      (hp : (s.document.valueAt Parameter place).result = .ok p) :
      Lists s ⟨p, locate s.location ["parameters", toString i]⟩

/-- The normalization of an operation may ask for the node of a place, which lies at a location. -/
inductive Asks (s : Site) : RefOr Schema → String → Prop
  | parameter {p : Located} {schema : RefOr Schema} (hp : s.Lists p)
      (h : p.parameter.schema? = some schema) : Asks s schema (locate p.location ["schema"])
  | body {place : RefOr RequestBody} {b : RequestBody} {mediaType : String} {m : MediaType}
      {schema : RefOr Schema} (hplace : s.operation.requestBody = some place)
      (hb : (s.document.valueAt RequestBody place).result = .ok b)
      (hm : s.preferredContent? b.content = some (mediaType, m)) (h : m.schema = some schema) :
      Asks s schema (locate s.location ["requestBody", "content", mediaType, "schema"])
  | response {code : String} {place : RefOr Response} {r : Response} {mediaType : Option String}
      {schema : RefOr Schema} {location : String} (hplace : (code, place) ∈ s.operation.responses)
      (hr : (s.document.valueAt Response place).result = .ok r)
      (h : s.responseContent (locate s.location ["responses", code]) r =
        (mediaType, some schema, location)) :
      Asks s schema location

variable {s : Site}

/-! ## Parameters -/

theorem confined_locatedParameters (h : Report.MayDangle E) (s : Site) (location : String)
    (places : List (RefOr Parameter)) : (s.locatedParameters location places).Confined K E := by
  apply Report.Agree.traverse
  rintro ⟨place, i⟩ _
  exact (s.document.confined_valueAt h Parameter place).bind fun parameter _ => .pure _

theorem confined_mergedParameters (h : Report.MayDangle E) (s : Site) :
    s.mergedParameters.Confined K E := by
  apply (s.confined_locatedParameters h _ _).bind
  intro ofPath _
  exact (s.confined_locatedParameters h _ _).bind fun ofOperation _ => .pure _

theorem mem_of_mem_mergeParameter {merged : List Located} {p q : Located}
    (h : q ∈ mergeParameter merged p) : q = p ∨ q ∈ merged := by
  induction merged with
  | nil => exact .inl (List.mem_singleton.1 h)
  | cons first rest ih =>
    rw [mergeParameter] at h
    split at h
    · exact (List.mem_cons.1 h).imp_right (List.mem_cons_of_mem _)
    · rcases List.mem_cons.1 h with rfl | h
      · exact .inr List.mem_cons_self
      · exact (ih h).imp_right (List.mem_cons_of_mem _)

theorem mem_of_mem_merged {located merged : List Located} {p : Located}
    (h : p ∈ located.foldl mergeParameter merged) : p ∈ located ++ merged := by
  induction located generalizing merged with
  | nil => exact h
  | cons q rest ih =>
    have hp := ih h
    rw [List.mem_append] at hp
    rw [List.cons_append, List.mem_cons, List.mem_append]
    rcases hp with hp | hp
    · exact .inr (.inl hp)
    · exact (mem_of_mem_mergeParameter hp).imp_right .inr

theorem exists_of_mem_locatedParameters {location : String} {places : List (RefOr Parameter)}
    {located : List Located} (h : (s.locatedParameters location places).result = .ok located)
    {p : Located} (hp : p ∈ located) :
    ∃ place i, (place, i) ∈ places.zipIdx ∧
      (s.document.valueAt Parameter place).result = .ok p.parameter ∧
      p.location = locate location ["parameters", toString i] := by
  obtain ⟨⟨place, i⟩, hplace, hresult⟩ := Report.exists_of_mem_traverse h hp
  obtain ⟨parameter, hparameter, hpure⟩ := Report.bind_eq_ok.1 hresult
  rw [Report.pure_eq_ok] at hpure
  subst hpure
  exact ⟨place, i, hplace, hparameter, rfl⟩

/-- Merging keeps parameters that are listed, and brings no others. -/
theorem lists_of_mem_mergedParameters {merged : List Located}
    (h : s.mergedParameters.result = .ok merged) : ∀ p ∈ merged, s.Lists p := by
  obtain ⟨ofPath, hpath, h⟩ := Report.bind_eq_ok.1 h
  obtain ⟨ofOperation, hoperation, h⟩ := Report.bind_eq_ok.1 h
  rw [Report.pure_eq_ok] at h
  subst h
  intro p hp
  have hp := mem_of_mem_merged hp
  rw [List.append_nil, List.mem_append] at hp
  rcases hp with hp | hp
  · obtain ⟨place, i, hplace, hparameter, hlocation⟩ := exists_of_mem_locatedParameters hpath hp
    obtain ⟨parameter, location⟩ := p
    subst hlocation
    exact .path hplace hparameter
  · obtain ⟨place, i, hplace, hparameter, hlocation⟩ :=
      exists_of_mem_locatedParameters hoperation hp
    obtain ⟨parameter, location⟩ := p
    subst hlocation
    exact .operation hplace hparameter

section Schemas

variable (hd : ∀ place location, s.Asks place location →
    (s.document.normalizeSchema place location).Confined K E)

include hd

theorem confined_parameterNode {p : Located} (hp : s.Lists p) :
    (s.parameterNode p).Confined K E := by
  unfold parameterNode
  split
  · rename_i place hplace
    exact hd _ _ (.parameter hp hplace)
  · exact .pure _

theorem confined_parameters {merged : List Located} (hmerged : ∀ p ∈ merged, s.Lists p) :
    (s.parameters merged).Confined K E := by
  induction merged with
  | nil => exact .pure []
  | cons p rest ih =>
    rw [List.forall_mem_cons] at hmerged
    rw [Site.parameters]
    split
    · exact ih hmerged.2
    · apply (confined_parameterNode hd hmerged.1).bind
      intro schema _
      exact (ih hmerged.2).bind fun more _ => .pure _

/-! ## Bodies -/

omit hd in
theorem confined_nodeOr {place : Option (RefOr Schema)} {location : String}
    (hplace : ∀ schema, place = some schema →
      (s.document.normalizeSchema schema location).Confined K E) (otherwise : Node) :
    (s.nodeOr otherwise location place).Confined K E := by
  cases place with
  | none => exact .pure otherwise
  | some schema => exact hplace schema rfl

theorem confined_requestBody (h : Report.MayDangle E) {place : RefOr RequestBody}
    (hplace : s.operation.requestBody = some place) : (s.requestBody place).Confined K E := by
  apply (s.document.confined_valueAt h RequestBody place).bind
  intro body hbody
  split
  · exact .pure none
  · rename_i hm
    have hnode := confined_nodeOr (fun schema hschema => hd _ _ (.body hplace hbody hm hschema))
    exact (hnode _).bind fun _ _ => .pure _

theorem confined_bodyOfParameter {p : Located} (hp : s.Lists p) :
    (s.bodyOfParameter p).Confined K E :=
  (confined_parameterNode hd hp).bind fun _ _ => .pure _

theorem confined_bodyOfForm {form : List Located} (hform : ∀ p ∈ form, s.Lists p) :
    (s.bodyOfForm form).Confined K E := by
  have hproperties : (Report.traverse (fun p : Located => do
      return (p.parameter.name, described (← s.parameterNode p) p.parameter.description))
      form).Confined K E := by
    apply Report.Agree.traverse
    intro p hp
    exact (confined_parameterNode hd (hform p hp)).bind fun _ _ => .pure _
  exact hproperties.bind fun properties _ => .pure _

theorem confined_body (h : Report.MayDangle E) {merged : List Located}
    (hmerged : ∀ p ∈ merged, s.Lists p) : (s.body merged).Confined K E := by
  have hkind : ∀ (q : Located → Bool), ∀ p ∈ merged.filter q, s.Lists p :=
    fun q p hp => hmerged p (List.mem_of_mem_filter hp)
  unfold Site.body
  dsimp only
  split
  · rename_i hplace
    exact confined_requestBody hd h hplace
  · rename_i hlast
    exact (confined_bodyOfParameter hd (hkind _ _ (List.mem_of_getLast? hlast))).map
  · exact .pure none
  · exact (confined_bodyOfForm hd (hkind _)).map

/-! ## Responses and security -/

theorem confined_responses (h : Report.MayDangle E) : s.responses.Confined K E := by
  apply Report.Agree.traverse
  rintro ⟨code, place⟩ hplace
  have hresponse : (s.response code place).Confined K E := by
    apply (s.document.confined_valueAt h Response place).bind
    intro r hr
    have hnode := confined_nodeOr (fun schema hschema => hd _ _ (.response hplace hr
      (Prod.ext rfl (Prod.ext hschema rfl))))
    exact (hnode _).bind fun _ _ => .pure _
  exact hresponse.bind fun r _ => .pure _

end Schemas

theorem confined_requiredScheme (h : Report.Admitted K E) (s : Site) (location name : String) :
    (s.requiredScheme location name).Confined K E := by
  unfold requiredScheme
  split
  · exact (h.record (by decide) (by decide) _ _).bind fun _ _ => .pure []
  · split
    · exact .pure _
    · exact (h.record (by decide) (by decide) _ _).bind fun _ _ => .pure []

theorem confined_security (h : Report.Admitted K E) (s : Site) : s.security.Confined K E := by
  apply Report.Agree.map
  apply Report.Agree.traverse
  rintro ⟨name, location⟩ _
  exact s.confined_requiredScheme h location name

/-! ## Operations -/

/-- The choice of an ID reports that the ID is taken already, or fails for that. -/
theorem confined_chooseId (hrecorded : ∀ x, x.kind = .duplicateOperationId → K x)
    (hfailed : ∀ id first second, E (.duplicateOperationId id first second)) (s : Site)
    (taken : TakenIds) : (s.chooseId taken).Confined K E := by
  unfold chooseId
  dsimp only
  split
  · exact .pure _
  · split
    · exact .fail (hfailed _ _ _)
    · exact (Report.Agree.record (hrecorded _ rfl)).bind fun _ _ => .pure _

/-- Besides what the schemas report that it asks for, an operation reports nothing about its ID. -/
theorem confined_normalize_of_asks (h : Report.Admitted K E)
    (hd : ∀ place location, s.Asks place location →
      (s.document.normalizeSchema place location).Confined K E) (id : String) :
    (s.normalize id).Confined K E := by
  apply (s.confined_mergedParameters h.unresolved).bind
  intro merged hmerged
  have hlists := lists_of_mem_mergedParameters hmerged
  apply (confined_parameters hd hlists).bind
  intro parameters _
  apply (confined_body hd h.unresolved hlists).bind
  intro body _
  apply (confined_responses hd h.unresolved).bind
  intro responses _
  apply (s.confined_security h).bind
  intro security _
  have hcodes : ∀ x : Diagnostic, x.kind = .unrecognizedStatusCode → K x := fun x hx =>
    h.recorded x (by rw [hx]; decide) (by rw [hx]; decide)
  exact (Model.confined_responseMap hcodes _ _ responses).bind fun responseMap _ => .pure _

theorem confined_normalize (h : Report.Allowed K E) (hd : s.document.Confined K E) (id : String) :
    (s.normalize id).Confined K E :=
  confined_normalize_of_asks h.toAdmitted (fun place location _ => hd.schema place location) id

end Document.Site

end ApiShape
