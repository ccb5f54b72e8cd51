import ApiShape.Normalize.Document
import ApiShape.Proofs.Dict
import ApiShape.Proofs.Node.Nested
import ApiShape.Proofs.Normalize.Steps

/-!
# The nodes of normalized documents

Where the nodes of a normalized document come from. A property of nodes that normalized schemas have
and that the few nodes built for operations inherit holds of every node of a normalized document.
-/

namespace ApiShape

/-! ## The nodes of a document -/

/-- The nodes of a response map. -/
def Model.ResponseMap.nodes (r : ResponseMap) : List Node :=
  r.responses.toList ++ r.response.toList ++ r.errors.toList ++ r.error.toList

/-- The nodes of an operation: parameters, body, responses, response map. -/
def Model.Operation.nodes (o : Operation) : List Node :=
  o.parameters.map (·.schema) ++ (o.body.map (·.schema)).toList ++
    o.responses.map (·.2.schema) ++ o.responseMap.nodes

/-- The nodes of a normalized document: named schemas and the nodes of operations. -/
def Model.nodes (m : Model) : List Node :=
  m.schemas.map (·.2) ++ m.operations.flatMap Operation.nodes

/-- The nodes of a normalized document at any depth. -/
def Model.nested (m : Model) : List Node :=
  m.nodes.flatMap Node.nested

namespace Document

/-- A property of nodes that normalized schemas have and that what is built of them for operations
inherits. -/
structure Preserves (d : Document) (P : Node → Prop) : Prop where
  schema : ∀ component place location n, d.Normalizes component place location n → P n
  nothing : ∀ type, type = .unknown ∨ type = .void → P (.ofType type)
  described : ∀ n description, P n → P (Site.described n description)
  object : ∀ (properties : Dict Node) required, (∀ e ∈ properties, P e.2) →
    (∀ name ∈ required, properties.has name = true) →
    P { type := some .object, properties, required }
  union : ∀ items, (∀ n ∈ items, P n) → P (Node.dedupe (Node.composition .or items))

variable {d : Document} {P : Node → Prop}

namespace Site

variable {s : Site}

/-! ## Operations -/

theorem preserves_nodeOr (hP : s.document.Preserves P) {otherwise n : Node} {location : String}
    {place : Option (RefOr Schema)} (hother : P otherwise)
    (h : (s.nodeOr otherwise location place).result = .ok n) : P n := by
  unfold nodeOr at h
  split at h
  · exact hP.schema _ _ _ _ (.of_normalizeSchema h)
  · rw [Report.pure_eq_ok] at h
    exact h ▸ hother

theorem preserves_parameterNode (hP : s.document.Preserves P) {p : Located} {n : Node}
    (h : (s.parameterNode p).result = .ok n) : P n := by
  unfold parameterNode at h
  split at h
  · exact hP.schema _ _ _ _ (.of_normalizeSchema h)
  · rw [Report.pure_eq_ok] at h
    exact h ▸ hP.nothing .unknown (.inl rfl)

theorem preserves_parameters (hP : s.document.Preserves P) {merged : List Located}
    {parameters : List Model.Parameter} (h : (s.parameters merged).result = .ok parameters) :
    ∀ p ∈ parameters, P p.schema := by
  induction merged generalizing parameters with
  | nil =>
    rw [Site.parameters, Report.pure_eq_ok] at h
    subst h
    exact fun p hp => by cases hp
  | cons p rest ih =>
    rw [Site.parameters] at h
    split at h
    · exact ih h
    · simp only [Report.bind_eq_ok, Report.pure_eq_ok] at h
      obtain ⟨schema, hschema, more, hmore, rfl⟩ := h
      intro q hq
      rcases List.mem_cons.1 hq with rfl | hq
      · exact preserves_parameterNode hP hschema
      · exact ih hmore q hq

theorem preserves_requestBody (hP : s.document.Preserves P) {place : RefOr RequestBody}
    {body : Option Model.Body} (h : (s.requestBody place).result = .ok body) :
    ∀ b ∈ body, P b.schema := by
  unfold requestBody at h
  rw [Report.bind_eq_ok] at h
  obtain ⟨found, _, h⟩ := h
  intro b hb
  split at h
  · rw [Report.pure_eq_ok] at h
    subst h
    cases hb
  · simp only [Report.bind_eq_ok, Report.pure_eq_ok] at h
    obtain ⟨n, hn, rfl⟩ := h
    cases hb
    exact hP.described n _ (preserves_nodeOr hP (hP.nothing .unknown (.inl rfl)) hn)

theorem preserves_bodyOfParameter (hP : s.document.Preserves P) {p : Located} {b : Model.Body}
    (h : (s.bodyOfParameter p).result = .ok b) : P b.schema := by
  unfold bodyOfParameter at h
  simp only [Report.bind_eq_ok, Report.pure_eq_ok] at h
  obtain ⟨n, hn, rfl⟩ := h
  exact hP.described n _ (preserves_parameterNode hP hn)

/-- The object of a form has a property for each of its parameters, the required ones among them. -/
theorem preserves_bodyOfForm (hP : s.document.Preserves P) {form : List Located} {b : Model.Body}
    (h : (s.bodyOfForm form).result = .ok b) : P b.schema := by
  unfold bodyOfForm at h
  simp only [Report.bind_eq_ok, Report.pure_eq_ok] at h
  obtain ⟨properties, hproperties, rfl⟩ := h
  refine hP.object _ _ ?_ ?_
  · -- Of parameters with one name the last gives the property.
    intro e he
    obtain ⟨p, _, hp⟩ := Report.exists_of_mem_traverse hproperties (Dict.mem_ofList he)
    simp only [Report.bind_eq_ok, Report.pure_eq_ok] at hp
    obtain ⟨n, hn, rfl⟩ := hp
    exact hP.described n _ (preserves_parameterNode hP hn)
  · intro name hname
    obtain ⟨p, hp, rfl⟩ := List.mem_map.1 (List.mem_eraseDups.1 hname)
    refine Dict.has_ofList ?_
    have hp : p ∈ form := (List.mem_filter.1 hp).1
    obtain ⟨e, he, hnamed⟩ := exists_right_of_forall₂ (Report.traverse_eq_ok.1 hproperties) hp
    simp only [Report.bind_eq_ok, Report.pure_eq_ok] at hnamed
    obtain ⟨n, _, rfl⟩ := hnamed
    exact List.mem_map.2 ⟨_, he, rfl⟩

theorem preserves_body (hP : s.document.Preserves P) {merged : List Located}
    {body : Option Model.Body} (h : (s.body merged).result = .ok body) :
    ∀ b ∈ body, P b.schema := by
  unfold Site.body at h
  dsimp only at h
  split at h
  · exact preserves_requestBody hP h
  · rw [Report.map_eq_ok] at h
    obtain ⟨b', hb', rfl⟩ := h
    intro b hb
    cases hb
    exact preserves_bodyOfParameter hP hb'
  · rw [Report.pure_eq_ok] at h
    subst h
    exact fun b hb => by cases hb
  · rw [Report.map_eq_ok] at h
    obtain ⟨b', hb', rfl⟩ := h
    intro b hb
    cases hb
    exact preserves_bodyOfForm hP hb'

theorem preserves_responses (hP : s.document.Preserves P)
    {responses : List (String × Model.Response)} (h : s.responses.result = .ok responses) :
    ∀ e ∈ responses, P e.2.schema := by
  intro e he
  obtain ⟨⟨code, place⟩, _, h⟩ := Report.exists_of_mem_traverse h he
  unfold response at h
  simp only [Report.bind_eq_ok, Report.pure_eq_ok] at h
  obtain ⟨r, ⟨found, _, n, hn, rfl⟩, rfl⟩ := h
  -- Without a schema the response is void or unknown.
  refine hP.described n _ (preserves_nodeOr hP (hP.nothing _ ?_) hn)
  split
  · exact .inr rfl
  · exact .inl rfl

end Site

end Document

/-! ## Response maps -/

namespace Model

/-- All the schemas that are sorted have a property. -/
structure Sorted.All (P : Node → Prop) (s : Sorted) : Prop where
  successes : ∀ e ∈ s.successes, P e.2
  errors : ∀ e ∈ s.errors, P e.2
  default : ∀ n ∈ s.default, P n

variable {P : Node → Prop} {ε : Type}

theorem forall_mem_insert {schemas : Dict Node} {code : String} {n : Node}
    (h : ∀ e ∈ schemas, P e.2) (hn : P n) : ∀ e ∈ schemas.insert code n, P e.2 := by
  intro e he
  rcases Dict.mem_insert he with he | rfl
  · exact h e he
  · exact hn

theorem Sorted.All.file {location code : String} {s s' : Sorted} {n : Node} (hs : s.All P)
    (hn : P n) (h : (Sorted.file location s code n : Report ε Sorted).result = .ok s') :
    s'.All P := by
  unfold Sorted.file at h
  split at h
  · rw [Report.pure_eq_ok] at h
    subst h
    exact ⟨forall_mem_insert hs.successes hn, hs.errors, hs.default⟩
  · rw [Report.pure_eq_ok] at h
    subst h
    exact ⟨hs.successes, forall_mem_insert hs.errors hn, hs.default⟩
  · rw [Report.pure_eq_ok] at h
    subst h
    exact ⟨hs.successes, forall_mem_insert hs.errors hn, hs.default⟩
  · rw [Report.pure_eq_ok] at h
    subst h
    exact ⟨hs.successes, hs.errors, fun m hm => Option.some.inj hm ▸ hn⟩
  · rw [Report.pure_eq_ok] at h
    exact h ▸ hs
  · rw [Report.pure_eq_ok] at h
    exact h ▸ hs
  · rw [Report.record_bind_eq_ok, Report.pure_eq_ok] at h
    exact h ▸ hs

theorem Sorted.All.fileAll {location : String} {s s' : Sorted}
    {responses : List (String × Response)} (hs : s.All P)
    (hr : ∀ e ∈ responses, P e.2.schema)
    (h : (Sorted.fileAll location s responses : Report ε Sorted).result = .ok s') : s'.All P := by
  induction responses generalizing s with
  | nil =>
    rw [Sorted.fileAll, Report.pure_eq_ok] at h
    exact h ▸ hs
  | cons e rest ih =>
    obtain ⟨code, r⟩ := e
    rw [Sorted.fileAll, Report.bind_eq_ok] at h
    obtain ⟨next, hnext, h⟩ := h
    exact ih (hs.file (hr _ List.mem_cons_self) hnext)
      (fun e he => hr e (List.mem_cons_of_mem _ he)) h

theorem Sorted.All.assignDefault {s : Sorted} (hs : s.All P) (config : Config) :
    (s.assignDefault config).All P := by
  unfold Sorted.assignDefault
  split
  · exact hs
  · rename_i n hn
    have hn : P n := hs.default n hn
    refine ⟨?_, ?_, hs.default⟩
    · dsimp only
      split
      · exact forall_mem_insert hs.successes hn
      · exact hs.successes
    · dsimp only
      split
      · exact forall_mem_insert hs.errors hn
      · exact hs.errors

end Model

namespace Document

variable {d : Document} {P : Node → Prop}

theorem preserves_groupObject (hP : d.Preserves P) {schemas : Dict Node}
    (h : ∀ e ∈ schemas, P e.2) : ∀ n ∈ Model.groupObject schemas, P n := by
  intro n hn
  unfold Model.groupObject at hn
  split at hn
  · cases hn
  · cases hn
    exact hP.object schemas schemas.keys h fun name hname => Dict.has_of_mem_keys hname

theorem preserves_groupUnion (hP : d.Preserves P) {schemas : Dict Node}
    (h : ∀ e ∈ schemas, P e.2) : ∀ n ∈ Model.groupUnion schemas, P n := by
  have hunion : P (Node.dedupe (Node.composition .or schemas.values)) := by
    refine hP.union _ fun n hn => ?_
    obtain ⟨e, he, rfl⟩ := List.mem_map.1 hn
    exact h e he
  intro n hn
  unfold Model.groupUnion at hn
  split at hn
  · cases hn
  · dsimp only at hn
    split at hn
    · cases hn
    · cases hn
      exact hunion

theorem preserves_responseMap (hP : d.Preserves P) {ε : Type} {config : Config}
    {location : String} {responses : List (String × Model.Response)} {r : Model.ResponseMap}
    (hr : ∀ e ∈ responses, P e.2.schema)
    (h : (Model.responseMap config location responses : Report ε Model.ResponseMap).result =
      .ok r) : ∀ n ∈ r.nodes, P n := by
  unfold Model.responseMap at h
  simp only [Report.bind_eq_ok, Report.pure_eq_ok] at h
  obtain ⟨sorted, hsorted, rfl⟩ := h
  -- Nothing is sorted at first, and the responses bring schemas that have the property.
  have hempty : Model.Sorted.All P {} :=
    ⟨(fun e he => by cases he), (fun e he => by cases he), (fun n hn => by cases hn)⟩
  have hall := (hempty.fileAll hr hsorted).assignDefault config
  intro n hn
  simp only [Model.ResponseMap.nodes, List.mem_append, Option.mem_toList] at hn
  rcases hn with ((hn | hn) | hn) | hn
  · exact preserves_groupObject hP hall.successes n hn
  · exact preserves_groupUnion hP hall.successes n hn
  · exact preserves_groupObject hP hall.errors n hn
  · exact preserves_groupUnion hP hall.errors n hn

/-- The nodes of a normalized operation have the property. -/
theorem Site.preserves_normalize {s : Site} (hP : s.document.Preserves P) {id : String}
    {o : Model.Operation} (h : (s.normalize id).result = .ok o) : ∀ n ∈ o.nodes, P n := by
  unfold Site.normalize at h
  simp only [Report.bind_eq_ok, Report.pure_eq_ok] at h
  obtain ⟨merged, _, parameters, hparameters, body, hbody, responses, hresponses, security, _,
    responseMap, hmap, rfl⟩ := h
  have hresponses := s.preserves_responses hP hresponses
  intro n hn
  simp only [Model.Operation.nodes, List.mem_append] at hn
  rcases hn with ((hn | hn) | hn) | hn
  · obtain ⟨p, hp, rfl⟩ := List.mem_map.1 hn
    exact s.preserves_parameters hP hparameters p hp
  · obtain ⟨b, hb, rfl⟩ := Option.map_eq_some_iff.1 (Option.mem_toList.1 hn)
    exact s.preserves_body hP hbody b hb
  · obtain ⟨e, he, rfl⟩ := List.mem_map.1 hn
    exact hresponses e he
  · exact preserves_responseMap hP hresponses hmap n hn

/-! ## Documents -/

/-- The operations that a path has so far are normalizations of its sites. -/
theorem exists_of_mem_normalizeSites {taken : TakenIds} {sites : List Site} {o : Model.Operation}
    (h : o ∈ (normalizeSites taken sites).1.operations) :
    ∃ s ∈ sites, ∃ id, (s.normalize id).result = .ok o := by
  induction sites generalizing taken with
  | nil => cases h
  | cons s rest ih =>
    rw [normalizeSites] at h
    dsimp only at h
    split at h
    · cases h
    · rename_i o' ho'
      rcases List.mem_cons.1 h with rfl | h
      · rw [Report.bind_eq_ok] at ho'
        obtain ⟨id, _, ho'⟩ := ho'
        exact ⟨s, List.mem_cons_self, id, ho'⟩
      · obtain ⟨s', hs', hn⟩ := ih h
        exact ⟨s', List.mem_cons_of_mem _ hs', hn⟩

theorem exists_of_mem_normalizePathsFrom {config : Config} {taken : TakenIds}
    {paths : List (String × PathItem)} {o : Model.Operation}
    (h : o ∈ (d.normalizePathsFrom config taken paths).operations) :
    ∃ s : Site, s.document = d ∧ ∃ id, (s.normalize id).result = .ok o := by
  induction paths generalizing taken with
  | nil => cases h
  | cons e rest ih =>
    obtain ⟨path, item⟩ := e
    rw [normalizePathsFrom] at h
    dsimp only at h
    -- Whatever the parameters of the path are, its sites belong to the document.
    have hsite : ∀ {params : List String},
        o ∈ (normalizeSites taken (d.sites config path item params)).1.operations →
        ∃ s : Site, s.document = d ∧ ∃ id, (s.normalize id).result = .ok o := by
      intro params ho
      obtain ⟨s, hs, id, hn⟩ := exists_of_mem_normalizeSites ho
      obtain ⟨_, _, rfl⟩ := List.mem_map.1 hs
      exact ⟨_, rfl, id, hn⟩
    split at h
    · exact hsite h
    · rcases List.mem_append.1 h with h | h
      · exact hsite h
      · exact ih h

end Document

namespace Model

theorem mem_setOperation {o p : Operation} {operations : List Operation}
    (h : p ∈ setOperation o operations) : p = o ∨ p ∈ operations := by
  induction operations with
  | nil => exact .inl (List.mem_singleton.1 h)
  | cons q rest ih =>
    rw [setOperation] at h
    split at h
    · rcases List.mem_cons.1 h with rfl | h
      · exact .inl rfl
      · exact .inr (List.mem_cons_of_mem _ h)
    · rcases List.mem_cons.1 h with rfl | h
      · exact .inr List.mem_cons_self
      · rcases ih h with h | h
        · exact .inl h
        · exact .inr (List.mem_cons_of_mem _ h)

theorem mem_operations_insertOperation {m : Model} {o p : Operation}
    (h : p ∈ (m.insertOperation o).operations) : p = o ∨ p ∈ m.operations := by
  obtain ⟨⟨path, operations⟩, he, hp⟩ := List.mem_flatMap.1 h
  rcases Dict.mem_insert he with he | he
  · exact .inr (List.mem_flatMap.2 ⟨_, he, hp⟩)
  · cases he
    rcases mem_setOperation hp with hp | hp
    · exact .inl hp
    · cases hget : Dict.get? m.paths o.path with
      | none =>
        rw [hget] at hp
        cases hp
      | some operations =>
        rw [hget] at hp
        exact .inr (List.mem_flatMap.2 ⟨_, Dict.mem_of_get?_eq_some hget, hp⟩)

theorem mem_operations_foldl_insertOperation {operations : List Operation} {m : Model}
    {p : Operation} (h : p ∈ (operations.foldl insertOperation m).operations) :
    p ∈ operations ∨ p ∈ m.operations := by
  induction operations generalizing m with
  | nil => exact .inr h
  | cons o rest ih =>
    rcases ih h with h | h
    · exact .inl (List.mem_cons_of_mem _ h)
    · rcases mem_operations_insertOperation h with rfl | h
      · exact .inl List.mem_cons_self
      · exact .inr h

theorem schemas_foldl_insertOperation (operations : List Operation) (m : Model) :
    (operations.foldl insertOperation m).schemas = m.schemas := by
  induction operations generalizing m with
  | nil => rfl
  | cons o rest ih => exact ih (m.insertOperation o)

end Model

namespace Session

variable {P : Node → Prop}

/-- The named schemas that are kept have the property, and no operation is lost or added. -/
theorem preserves_components {s s' : Session} {named : List Document.NamedSchema}
    (hP : s.document.Preserves P) (hs : ∀ e ∈ s.model.schemas, P e.2)
    (h : s.components named = (s', .ok ())) :
    (∀ e ∈ s'.model.schemas, P e.2) ∧ s'.model.paths = s.model.paths ∧
      s'.document = s.document ∧ s'.config = s.config := by
  induction named generalizing s with
  | nil =>
    cases h
    exact ⟨hs, rfl, rfl, rfl⟩
  | cons c rest ih =>
    rw [components] at h
    cases hc : (s.document.normalizeComponent c.name c.schema c.location).result with
    | error e =>
      simp only [component, hc] at h
      cases h
    | ok n =>
      simp only [component, hc] at h
      have hkept : ∀ e ∈ (s.model.insertSchema c.name n).schemas, P e.2 :=
        Model.forall_mem_insert hs (hP.schema _ _ _ _ (.of_normalizeComponent hc))
      -- The session goes on with the node kept under its name.
      let reported :=
        s.note (s.document.normalizeComponent c.name c.schema c.location).diagnostics
      exact ih (s := { reported with model := s.model.insertSchema c.name n }) hP hkept h

end Session

/-- Whatever normalized schemas have and operations inherit holds of every node of a normalized
document. -/
theorem Document.Preserves.forall_mem_nodes {d : Document} {P : Node → Prop} (hP : d.Preserves P)
    {config : Config} {r : Normalized} (h : d.normalize config = .ok r) :
    ∀ n ∈ r.model.nodes, P n := by
  unfold Document.normalize at h
  split at h
  · cases h
  · rename_i s hs
    obtain ⟨hschemas, hpaths, hd, hconfig⟩ :=
      Session.preserves_components hP (fun e he => by cases he) hs
    split at h
    · cases h
    · rename_i s' hs'
      cases h
      obtain ⟨rfl, _⟩ := Prod.mk.inj hs'
      intro n hn
      rcases List.mem_append.1 hn with hn | hn
      · dsimp only at hn
        rw [Model.schemas_foldl_insertOperation] at hn
        obtain ⟨e, he, rfl⟩ := List.mem_map.1 hn
        exact hschemas e he
      · obtain ⟨o, ho, hn⟩ := List.mem_flatMap.1 hn
        rcases Model.mem_operations_foldl_insertOperation ho with ho | ho
        · obtain ⟨site, hsite, id, ho⟩ := exists_of_mem_normalizePathsFrom ho
          rw [hd] at hsite
          exact site.preserves_normalize (hsite ▸ hP) ho n hn
        · -- Operations are added only now: before them there is none.
          obtain ⟨e, he, _⟩ := List.mem_flatMap.1 ho
          change e ∈ s.model.paths at he
          rw [hpaths] at he
          cases he

end ApiShape
