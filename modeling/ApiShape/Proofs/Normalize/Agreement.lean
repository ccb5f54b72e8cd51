import ApiShape.Normalize.Document
import ApiShape.Proofs.Document.Ancestors
import ApiShape.Proofs.Normalize.Enumeration
import ApiShape.Proofs.Normalize.Inherited

/-!
# What a normalization depends on and what it reports

A layer of normalization asks for the nodes of some places only. If two normalizers agree on those,
the layer comes out the same with both; if what they report there is of some kinds only, so is what
the layer reports. The normalization of an operation asks for nodes in the same way.
-/

namespace ApiShape

variable {ε α β : Type}

/-! ## Reports that agree -/

/-- The second report is the first, whose diagnostics and whose error are among given ones. -/
structure Report.Agree (K : Diagnostic → Prop) (E : ε → Prop) (r r' : Report ε α) : Prop where
  same : r' = r
  recorded : ∀ x ∈ r.diagnostics, K x
  failed : ∀ e, r.result = .error e → E e

/-- The diagnostics and the error of the report are among given ones. -/
abbrev Report.Confined (K : Diagnostic → Prop) (E : ε → Prop) (r : Report ε α) : Prop :=
  r.Agree K E r

namespace Report.Agree

variable {K : Diagnostic → Prop} {E : ε → Prop} {r r' : Report ε α}

theorem pure (a : α) : (Pure.pure a : Report ε α).Agree K E (Pure.pure a) :=
  ⟨rfl, fun _ h => absurd h List.not_mem_nil, fun _ h => nomatch h⟩

theorem fail {e : ε} (h : E e) : (fail e : Report ε α).Agree K E (Report.fail e) := by
  refine ⟨rfl, fun _ h => absurd h List.not_mem_nil, fun e' he => ?_⟩
  cases he
  exact h

theorem record {kind : DiagnosticKind} {location message : String}
    (h : K ⟨kind, message, location⟩) :
    (record kind location message : Report ε Unit).Agree K E (Report.record kind location message) := by
  refine ⟨rfl, fun x hx => ?_, fun _ h => nomatch h⟩
  rw [List.mem_singleton.1 hx]
  exact h

/-- What comes next needs to agree only for the result that there is. -/
theorem bind {f f' : α → Report ε β} (h : r.Agree K E r')
    (hf : ∀ a, r.result = .ok a → (f a).Agree K E (f' a)) : (r >>= f).Agree K E (r' >>= f') := by
  obtain ⟨hsame, hrecorded, hfailed⟩ := h
  subst hsame
  obtain ⟨diagnostics, result⟩ := r'
  cases result with
  | error e => exact ⟨rfl, hrecorded, fun e' he => hfailed e' (Except.error.inj he ▸ rfl)⟩
  | ok a =>
    obtain ⟨hsame, hrecorded', hfailed'⟩ := hf a rfl
    refine ⟨?_, fun x hx => ?_, hfailed'⟩
    · show Report.bind _ f' = Report.bind _ f
      unfold Report.bind
      dsimp only
      rw [hsame]
    · rcases List.mem_append.1 hx with hx | hx
      · exact hrecorded x hx
      · exact hrecorded' x hx

theorem map {f : α → β} (h : r.Agree K E r') : (f <$> r).Agree K E (f <$> r') :=
  h.bind fun a _ => pure (f a)

/-- Lists are gone through in the same way if each step is the same. -/
theorem traverse {f f' : α → Report ε β} {as : List α} (h : ∀ a ∈ as, (f a).Agree K E (f' a)) :
    (traverse f as).Agree K E (Report.traverse f' as) := by
  induction as with
  | nil => exact pure []
  | cons a rest ih =>
    rw [Report.traverse, Report.traverse]
    apply (h a List.mem_cons_self).bind
    intro b _
    apply (ih fun a ha => h a (List.mem_cons_of_mem _ ha)).bind
    exact fun bs _ => pure (b :: bs)

end Report.Agree

/-- The normalizers agree on a place that lies at one of certain locations. -/
def Normalizer.AgreeAt (Lies : RefOr Schema → String → Prop) (K : Diagnostic → Prop)
    (E : NormalizeError → Prop) (normalize normalize' : Normalizer) (place : RefOr Schema) : Prop :=
  ∀ location, Lies place location → (normalize place location).Agree K E (normalize' place location)

/-- The errors of references that do not resolve are among given ones. -/
abbrev Report.MayDangle (E : NormalizeError → Prop) : Prop :=
  ∀ reference reason, E (.unresolvedReference reference reason)

/-- The diagnostics that a path or an operation may bring, apart from its ID and its schemas, and the
error of a reference are among given ones. -/
structure Report.Admitted (K : Diagnostic → Prop) (E : NormalizeError → Prop) : Prop where
  recorded : ∀ x, x.kind ≠ .duplicateOperationId → x.kind ≠ .unsupportedEnumValueType → K x
  unresolved : Report.MayDangle E

/-- The diagnostics that a schema may bring are among the given ones as well. -/
structure Report.Allowed (K : Diagnostic → Prop) (E : NormalizeError → Prop) : Prop
    extends Report.Admitted K E where
  skipped : ∀ x, x.kind = .unsupportedEnumValueType → K x

variable {K : Diagnostic → Prop} {E : NormalizeError → Prop}

theorem Report.Admitted.record (h : Admitted K E) {kind : DiagnosticKind}
    (hid : kind ≠ .duplicateOperationId) (hvalue : kind ≠ .unsupportedEnumValueType)
    (location message : String) :
    (Report.record kind location message : Report NormalizeError Unit).Confined K E :=
  .record (h.recorded _ hid hvalue)

theorem Document.confined_resolved (h : Report.MayDangle E) (d : Document) (α : Type) [Component α]
    (r : Ref) : (d.resolved α r).Confined K E := by
  unfold resolved
  cases d.resolve α r with
  | ok a => exact .pure a
  | error reason => exact .fail (h r.text reason)

theorem Document.confined_valueAt (h : Report.MayDangle E) (d : Document) (α : Type) [Component α]
    (place : RefOr α) : (d.valueAt α place).Confined K E := by
  cases place with
  | ref r => exact d.confined_resolved h α r
  | inline a => exact .pure a

/-! ## The places that a layer asks for -/

namespace Schema

/-- The places of the properties of a schema, and of those that it does not name. -/
def objectPlaces (s : Schema) : List (RefOr Schema) :=
  (s.properties.getD []).map (·.2) ++
    match s.additional with
    | some (.schema place) => [place]
    | _ => []

/-- The places that a type of a schema asks for. -/
def typePlaces (s : Schema) : SchemaType → List (RefOr Schema)
  | .array => s.items.toList
  | .object => s.objectPlaces
  | _ => []

end Schema

namespace Document

/-- The places of required properties that a schema does not declare and takes over. -/
def inheritedPlaces (d : Document) (s : Schema) : List (RefOr Schema) :=
  (s.required.filter fun name => (s.property? name).isNone).filterMap fun name =>
    (d.inheritedProperty? s "#" name).map (·.property)

/-- The places that the normalization of a schema normalizes. -/
def nextPlaces (d : Document) (s : Schema) : List (RefOr Schema) :=
  match s.form with
  | .enum _ => []
  | .allOf branches =>
    branches ++ if s.infersObject then s.objectPlaces ++ d.inheritedPlaces s else []
  | .anyOf branches | .oneOf branches =>
    branches ++ if s.properties.isSome then s.objectPlaces else []
  | .typed => s.effectiveTypes.flatMap s.typePlaces
  | .untyped => []

/-- The normalization of a schema that lies at a location may ask for the node of a place, which lies at
a location in turn. -/
inductive Asks (d : Document) (s : Schema) (location : String) : RefOr Schema → String → Prop
  | property {name : String} {place : RefOr Schema} (h : (name, place) ∈ s.properties.getD []) :
      Asks d s location place (locate location ["properties", name])
  | additional {place : RefOr Schema} (h : s.additional = some (.schema place)) :
      Asks d s location place (locate location ["additionalProperties"])
  | item {place : RefOr Schema} (h : s.items = some place) :
      Asks d s location place (locate location ["items"])
  | branch {keyword : String} {branches : List (RefOr Schema)} {place : RefOr Schema} {i : Nat}
      (hkeyword : (keyword, some branches) ∈
        [("allOf", s.allOf), ("anyOf", s.anyOf), ("oneOf", s.oneOf)])
      (h : (place, i) ∈ branches.zipIdx) :
      Asks d s location place (locate location [keyword, toString i])
  | inherited {name : String} {found : Inherited}
      (h : d.inheritedProperty? s location name = some found) :
      Asks d s location found.property found.location

/-! Where a schema lies does not matter for the properties that it takes over. -/

theorem map_schema_visit (d : Document) (unmet : List String) (stack stack' : List Branch)
    (h : stack.map (·.place) = stack'.map (·.place)) :
    (d.visit unmet stack).map (·.schema) = (d.visit unmet stack').map (·.schema) := by
  -- Where the walk goes depends on the places alone; the locations are only carried along.
  induction unmet, stack using visit.induct d generalizing stack' with
  | case1 unmet =>
    rw [List.map_nil, eq_comm, List.map_eq_nil_iff] at h
    rw [h]
  | case2 unmet s location rest ih =>
    obtain ⟨⟨place, location'⟩, rest', rfl, rfl, hrest⟩ := List.map_eq_cons_iff.1 h.symm
    rw [visit, visit, List.map_cons, List.map_cons]
    apply congrArg (s :: ·)
    apply ih
    rw [List.map_append, List.map_append, s.map_place_branches, s.map_place_branches, hrest]
  | case3 unmet r location rest hmem e he ih =>
    obtain ⟨⟨place, location'⟩, rest', rfl, rfl, hrest⟩ := List.map_eq_cons_iff.1 h.symm
    rw [visit, visit, dif_pos hmem, dif_pos hmem, he]
    exact ih rest' hrest.symm
  | case4 unmet r location rest hmem s hs next ih =>
    obtain ⟨⟨place, location'⟩, rest', rfl, rfl, hrest⟩ := List.map_eq_cons_iff.1 h.symm
    rw [visit, visit, dif_pos hmem, dif_pos hmem, hs]
    dsimp only
    rw [List.map_cons, List.map_cons]
    apply congrArg (s :: ·)
    apply ih
    rw [List.map_append, List.map_append, s.map_place_branches, s.map_place_branches, hrest]
  | case5 unmet r location rest hmem ih =>
    obtain ⟨⟨place, location'⟩, rest', rfl, rfl, hrest⟩ := List.map_eq_cons_iff.1 h.symm
    rw [visit, visit, dif_neg hmem, dif_neg hmem]
    exact ih rest' hrest.symm

/-- The place of an inherited property is what the ancestors, wherever they lie, declare first. -/
theorem map_property_inheritedProperty? (d : Document) (s : Schema) (location name : String) :
    (d.inheritedProperty? s location name).map (·.property) =
      ((d.ancestors s location).map (·.schema)).findSome? (·.property? name) := by
  unfold inheritedProperty?
  generalize d.ancestors s location = found
  induction found with
  | nil => rfl
  | cons a rest ih =>
    rw [List.findSome?_cons, List.map_cons, List.findSome?_cons, ← ih]
    cases a.schema.property? name <;> rfl

theorem mem_inheritedPlaces {d : Document} {s : Schema} {location name : String}
    {found : Inherited} (hname : name ∈ s.required) (hown : s.property? name = none)
    (h : d.inheritedProperty? s location name = some found) :
    found.property ∈ d.inheritedPlaces s := by
  have hplaces : (d.ancestors s location).map (·.schema) = (d.ancestors s "#").map (·.schema) := by
    apply map_schema_visit
    rw [s.map_place_branches, s.map_place_branches]
  have hproperty := d.map_property_inheritedProperty? s location name
  rw [hplaces, ← map_property_inheritedProperty?, h] at hproperty
  unfold inheritedPlaces
  rw [List.mem_filterMap]
  refine ⟨name, List.mem_filter.2 ⟨hname, ?_⟩, hproperty.symm⟩
  rw [hown]
  rfl

end Document

namespace Schema

variable {d : Document} {normalize normalize' : Normalizer} {s : Schema} {location : String}

/-- The form of a schema holds what the keyword of the form holds. -/
theorem keyword_of_form (s : Schema) :
    match s.form with
    | .enum values => s.enum = some values
    | .allOf branches => s.allOf = some branches
    | .anyOf branches => s.anyOf = some branches
    | .oneOf branches => s.oneOf = some branches
    | .typed | .untyped => True := by
  unfold form
  cases henum : s.enum with
  | some values => rfl
  | none =>
    cases hallOf : s.allOf with
    | some branches => rfl
    | none =>
      cases hanyOf : s.anyOf with
      | some branches => rfl
      | none =>
        cases honeOf : s.oneOf with
        | some branches => rfl
        | none =>
          dsimp only
          by_cases htyped : (!s.types.isEmpty || s.properties.isSome || s.const.isSome) = true
          · rw [if_pos htyped]
            exact trivial
          · rw [if_neg htyped]
            exact trivial

theorem confined_literals (h : ∀ x, x.kind = .unsupportedEnumValueType → K x) (s : Schema)
    (location : String) (i : Nat) (values : List Json) :
    (s.literals location i values : Report NormalizeError (List Node)).Confined K E := by
  rw [literals_eq]
  refine ⟨rfl, fun x hx => ?_, fun _ h => nomatch h⟩
  obtain ⟨v, j, -, -, rfl⟩ := mem_skipped.1 hx
  exact h _ rfl

theorem agree_propertyNodes
    (hplaces : ∀ place ∈ s.objectPlaces, normalize.AgreeAt (d.Asks s location) K E normalize' place) :
    (s.propertyNodes normalize location).Agree K E (s.propertyNodes normalize' location) := by
  apply Report.Agree.traverse
  rintro ⟨name, place⟩ he
  have hplace := hplaces place (List.mem_append_left _ (List.mem_map_of_mem he)) _ (.property he)
  exact hplace.bind fun n _ => .pure _

theorem agree_objectNode
    (hplaces : ∀ place ∈ s.objectPlaces, normalize.AgreeAt (d.Asks s location) K E normalize' place)
    (properties : Dict Node) :
    (s.objectNode normalize location properties).Agree K E
      (s.objectNode normalize' location properties) := by
  have hadditional : (s.additionalNode normalize location properties).Agree K E
      (s.additionalNode normalize' location properties) := by
    unfold additionalNode
    split
    · exact .pure _
    · exact .pure _
    · exact .pure _
    · rename_i place hplace
      have hmem : place ∈ s.objectPlaces := by
        unfold objectPlaces
        rw [hplace]
        exact List.mem_append_right _ (List.mem_singleton_self place)
      exact (hplaces place hmem _ (.additional hplace)).bind fun n _ => .pure _
  exact hadditional.bind fun additional _ => .pure _

theorem agree_typeNode {type : SchemaType}
    (hplaces : ∀ place ∈ s.typePlaces type,
      normalize.AgreeAt (d.Asks s location) K E normalize' place) :
    (s.typeNode normalize location type).Agree K E (s.typeNode normalize' location type) := by
  have hbare : (s.bareNode normalize location type).Agree K E
      (s.bareNode normalize' location type) := by
    -- Of all types only arrays and objects have parts.
    cases type with
    | array =>
      show (s.arrayNode normalize location).Agree K E (s.arrayNode normalize' location)
      rw [arrayNode_eq, arrayNode_eq]
      apply Report.Agree.map
      unfold itemNode
      split
      · rename_i place hitems
        have hmem : place ∈ s.typePlaces .array := by
          show place ∈ s.items.toList
          rw [hitems]
          exact List.mem_singleton_self place
        exact (hplaces place hmem _ (.item hitems)).map
      · exact .pure _
    | object =>
      exact (agree_propertyNodes hplaces).bind fun properties _ =>
        agree_objectNode hplaces properties
    | _ => exact .pure _
  exact hbare.bind fun n _ => .pure _

theorem agree_typed
    (hplaces : ∀ place ∈ s.effectiveTypes.flatMap s.typePlaces,
      normalize.AgreeAt (d.Asks s location) K E normalize' place) :
    (s.typed normalize location).Agree K E (s.typed normalize' location) := by
  rw [typed_eq, typed_eq]
  apply Report.Agree.map
  apply Report.Agree.traverse
  intro type htype
  apply agree_typeNode (d := d)
  intro place hplace
  exact hplaces place (List.mem_flatMap.2 ⟨type, htype, hplace⟩)

theorem agree_allOfBranch (h : Report.MayDangle E) {branch : RefOr Schema × Nat}
    (hplace : (normalize branch.1 (locate location ["allOf", toString branch.2])).Agree K E
      (normalize' branch.1 (locate location ["allOf", toString branch.2])))
    (component : Option String) :
    (s.allOfBranch d normalize component location branch).Agree K E
      (s.allOfBranch d normalize' component location branch) := by
  obtain ⟨place, i⟩ := branch
  cases place with
  | inline t => exact hplace.bind fun n _ => .pure _
  | ref r =>
    apply hplace.bind
    intro n _
    cases component with
    | none => exact .pure _
    | some name =>
      have htag : (tagOf? d name r).Confined K E :=
        (d.confined_resolved h Schema r).bind fun parent _ => .pure _
      exact htag.bind fun tag _ => .pure _

/-- A required property that is missing is asked for, unless the schema has declared it itself. -/
theorem agree_takeOver
    (hplaces : ∀ place ∈ d.inheritedPlaces s,
      normalize.AgreeAt (d.Asks s location) K E normalize' place)
    {names : List String} (hnames : names ⊆ s.required) {properties : Dict Node}
    (hdeclared : ∀ name, (s.property? name).isSome = true → properties.has name = true) :
    (s.takeOver d normalize location properties names).Agree K E
      (s.takeOver d normalize' location properties names) := by
  induction names generalizing properties with
  | nil => exact .pure _
  | cons name rest ih =>
    have hrest : rest ⊆ s.required := fun other hother => hnames (List.mem_cons_of_mem _ hother)
    have hstep : (s.inheritedNode d normalize location properties name).Agree K E
        (s.inheritedNode d normalize' location properties name) := by
      unfold inheritedNode
      split
      · exact .pure _
      · rename_i hmissing
        split
        · exact .pure _
        · rename_i found hfound
          have hown : s.property? name = none := by
            rw [← Option.not_isSome_iff_eq_none]
            exact fun hown => hmissing (hdeclared name hown)
          have hmem := Document.mem_inheritedPlaces (hnames List.mem_cons_self) hown hfound
          exact (hplaces _ hmem _ (.inherited hfound)).bind fun n _ => .pure _
    rw [takeOver, takeOver]
    apply hstep.bind
    intro next hnext
    apply ih hrest
    intro other hother
    -- What is at hand stays at hand when a property is taken over.
    rcases inheritedNode_eq_ok hnext with rfl | ⟨found, m, -, -, rfl⟩
    · exact hdeclared other hother
    · rw [Dict.has, Dict.get?_insert]
      split
      · rfl
      · exact hdeclared other hother

theorem agree_ownShape
    (hplaces : s.infersObject = true → ∀ place ∈ s.objectPlaces ++ d.inheritedPlaces s,
      normalize.AgreeAt (d.Asks s location) K E normalize' place) :
    (s.ownShape d normalize location).Agree K E (s.ownShape d normalize' location) := by
  unfold ownShape
  split
  · rename_i hobject
    have hobjects : ∀ place ∈ s.objectPlaces,
        normalize.AgreeAt (d.Asks s location) K E normalize' place :=
      fun place hplace => hplaces hobject place (List.mem_append_left _ hplace)
    apply (agree_propertyNodes hobjects).bind
    intro declared hdeclared
    have htaken : (s.takeOver d normalize location declared s.required).Agree K E
        (s.takeOver d normalize' location declared s.required) := by
      apply agree_takeOver
      · exact fun place hplace => hplaces hobject place (List.mem_append_right _ hplace)
      · exact List.Subset.refl _
      · -- What the schema declares itself is not taken over, in either run.
        intro name hname
        rw [has_propertyNodes hdeclared, hname]
    apply htaken.bind
    intro properties _
    exact (agree_objectNode hobjects properties).bind fun shape _ => .pure _
  · exact .pure _

theorem agree_union (kind : UnionKind) {branches : List (RefOr Schema)}
    (hbranches : ∀ branch ∈ branches.zipIdx,
      (normalize branch.1 (locate location [kind.keyword, toString branch.2])).Agree K E
        (normalize' branch.1 (locate location [kind.keyword, toString branch.2])))
    (hplaces : s.properties.isSome = true → ∀ place ∈ s.objectPlaces,
      normalize.AgreeAt (d.Asks s location) K E normalize' place) :
    (s.union normalize kind location branches).Agree K E
      (s.union normalize' kind location branches) := by
  have hitems : (Report.traverse (s.unionBranch normalize kind location) branches.zipIdx).Agree K E
      (Report.traverse (s.unionBranch normalize' kind location) branches.zipIdx) := by
    apply Report.Agree.traverse
    rintro ⟨place, i⟩ hbranch
    exact (hbranches _ hbranch).bind fun n _ => .pure _
  apply hitems.bind
  intro items _
  dsimp only
  -- What stands beside the branches is built only if the schema declares properties.
  split
  · rename_i hobject
    apply (agree_propertyNodes (hplaces hobject)).bind
    intro properties _
    exact (agree_objectNode (hplaces hobject) properties).bind fun shape _ => .pure _
  · exact .pure _

/-- A layer depends only on the nodes of the places that the schema asks for. -/
theorem agree_normalizeLayer (h : Report.MayDangle E)
    (hvalues : ∀ values, s.enum = some values →
      (s.literals location 0 values : Report NormalizeError (List Node)).Confined K E)
    (hplaces : ∀ place ∈ d.nextPlaces s, normalize.AgreeAt (d.Asks s location) K E normalize' place)
    (component : Option String) :
    (s.normalizeLayer d normalize component location).Agree K E
      (s.normalizeLayer d normalize' component location) := by
  have hkeyword := s.keyword_of_form
  unfold normalizeLayer
  unfold Document.nextPlaces at hplaces
  -- The form decides which places are next, and what is built of them.
  cases hform : s.form with
  | enum values =>
    rw [hform] at hkeyword
    exact (hvalues values hkeyword).bind fun items _ => .pure _
  | allOf branches =>
    rw [hform] at hplaces hkeyword
    have hbranches : (Report.traverse (s.allOfBranch d normalize component location)
        branches.zipIdx).Agree K E
        (Report.traverse (s.allOfBranch d normalize' component location) branches.zipIdx) := by
      apply Report.Agree.traverse
      intro branch hbranch
      apply agree_allOfBranch h
      apply hplaces _ (List.mem_append_left _ (List.fst_mem_of_mem_zipIdx hbranch))
      exact .branch (by simp [hkeyword]) hbranch
    have hshape : (s.ownShape d normalize location).Agree K E
        (s.ownShape d normalize' location) := by
      apply agree_ownShape
      intro hobject place hplace
      apply hplaces
      rw [if_pos hobject]
      exact List.mem_append_right _ hplace
    apply hbranches.bind
    intro items _
    exact hshape.bind fun shape _ => .pure _
  | anyOf branches | oneOf branches =>
    rw [hform] at hplaces hkeyword
    apply agree_union (d := d)
    · intro branch hbranch
      apply hplaces _ (List.mem_append_left _ (List.fst_mem_of_mem_zipIdx hbranch))
      exact .branch (by simp [hkeyword]) hbranch
    · intro hobject place hplace
      apply hplaces
      rw [if_pos hobject]
      exact List.mem_append_right _ hplace
  | typed =>
    rw [hform] at hplaces
    exact agree_typed hplaces
  | untyped => exact .pure _

end Schema

end ApiShape
