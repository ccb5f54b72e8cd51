import ApiShape.Proofs.Alongside.Session
import ApiShape.Proofs.Document.Revised
import ApiShape.Proofs.Node.Undocumented

/-!
# Documentation and shapes

Documents that differ in the documentation of their schemas only have named schemas of the same
shapes. The two normalizations run alongside: they come to corresponding schemas at the same locations,
record the same diagnostics, and succeed or fail together.
-/

namespace ApiShape

/-! ## Documents without documentation -/

/-- The schema without its documentation, and of its extensions only the one that lets null in. -/
def Schema.withoutDocs (s : Schema) : Schema :=
  { s with
    title := none
    description := none
    deprecated := none
    default := none
    extensions := s.extensions.filter fun e => e.1 = "x-nullable" }

/-- Erases the documentation of schemas. -/
def Revision.undocumented : Revision where
  ref := id
  own := Schema.withoutDocs
  properties _ := rfl
  additional _ := rfl
  items _ := rfl
  enum _ := rfl
  allOf _ := rfl
  anyOf _ := rfl
  oneOf _ := rfl

/-- The schema without documentation at any depth. -/
def Schema.undocumented (s : Schema) : Schema :=
  s.revised .undocumented

/-- The document without the documentation of its schemas. -/
def Document.undocumented (d : Document) : Document :=
  d.revised .undocumented

/-! ## What is left of a schema -/

namespace Schema

variable {s s' : Schema} {place place' : RefOr Schema}

theorem isNullable_withoutDocs (s : Schema) : s.withoutDocs.isNullable = s.isNullable := by
  have hextension : s.withoutDocs.extension? "x-nullable" = s.extension? "x-nullable" :=
    Dict.get?_filter_eq s.extensions "x-nullable"
  unfold isNullable
  rw [hextension]
  rfl

end Schema

/-- Schemas correspond that are equal without documentation. -/
def Pairing.shape : Pairing where
  ref := Eq
  schema s s' := s.undocumented = s'.undocumented
  docs _ _ := True
  node := Node.SameShape
  location := Eq
  reason := Eq
  error := Eq

namespace Pairing

variable {s s' : Schema} {place place' : RefOr Schema}

/-- What is equal without documentation corresponds. -/
theorem place_shape (h : Schema.revisedPlace .undocumented place =
    Schema.revisedPlace .undocumented place') : shape.place place place' := by
  cases place with
  | ref r =>
    cases place' with
    | ref r' => exact .ref (RefOr.ref.inj h)
    | inline s' => cases h
  | inline s =>
    cases place' with
    | ref r' => cases h
    | inline s' => exact .inline (RefOr.inline.inj h)

theorem properties_shape {named named' : List (String × RefOr Schema)}
    (h : named.map (onEntry (Schema.revisedPlace .undocumented)) =
      named'.map (onEntry (Schema.revisedPlace .undocumented))) :
    List.Forall₂ (Named shape.place) named named' := by
  refine (map_eq_map_iff.1 h).imp ?_
  rintro ⟨name, place⟩ ⟨name', place'⟩ he
  have hentry := Prod.mk.inj he
  exact ⟨hentry.1, place_shape hentry.2⟩

theorem additional_shape {a a' : Additional (RefOr Schema)}
    (h : onAdditional (Schema.revisedPlace .undocumented) a =
      onAdditional (Schema.revisedPlace .undocumented) a') :
    a.Alongside shape.place a' := by
  cases a with
  | flag b =>
    cases a' with
    | flag b' =>
      cases h
      exact .flag b
    | schema _ => cases h
  | schema place =>
    cases a' with
    | flag _ => cases h
    | schema place' => exact .schema (place_shape (Additional.schema.inj h))

/-- Schemas that are equal without documentation have the same keywords, and corresponding schemas at
their places. -/
theorem alongside_shape (h : s.undocumented = s'.undocumented) : s.Alongside shape s' := by
  have hplaces : ∀ {places places' : Option (List (RefOr Schema))},
      places.map (List.map (Schema.revisedPlace .undocumented)) =
        places'.map (List.map (Schema.revisedPlace .undocumented)) →
      Option.Rel (List.Forall₂ shape.place) places places' :=
    fun h => rel_imp (fun _ _ h => (map_eq_map_iff.1 h).imp fun a b (h : _ = _) =>
      (place_shape h : shape.place a b)) (rel_of_map_eq h)
  have hproperties := congrArg Schema.properties h
  have hadditional := congrArg Schema.additional h
  have hitems := congrArg Schema.items h
  have hallOf := congrArg Schema.allOf h
  have hanyOf := congrArg Schema.anyOf h
  have honeOf := congrArg Schema.oneOf h
  unfold Schema.undocumented at *
  rw [Schema.properties_revised, Schema.properties_revised] at hproperties
  rw [Schema.additional_revised, Schema.additional_revised] at hadditional
  rw [Schema.items_revised, Schema.items_revised] at hitems
  rw [Schema.allOf_revised, Schema.allOf_revised] at hallOf
  rw [Schema.anyOf_revised, Schema.anyOf_revised] at hanyOf
  rw [Schema.oneOf_revised, Schema.oneOf_revised] at honeOf
  -- The other keywords have no schemas in them, so they are equal as they stand.
  rw [Schema.revised_eq, Schema.revised_eq] at h
  have hconstraints := congrArg Schema.constraints h
  have hconst := congrArg Schema.const h
  have hrequired := congrArg Schema.required h
  have htuple := congrArg Schema.tupleLength? h
  have htypes := congrArg Schema.types h
  have hnullable := congrArg Schema.isNullable h
  have henum := congrArg Schema.enum h
  have hsame := congrArg Schema.discriminator h
  have hdiscriminator : s.discriminator = s'.discriminator := hsame
  refine {
    constraints := hconstraints
    const := hconst
    required := hrequired
    tupleLength := htuple
    properties := rel_imp (fun _ _ => properties_shape) (rel_of_map_eq hproperties)
    additional := rel_imp (fun _ _ => additional_shape) (rel_of_map_eq hadditional)
    items := rel_imp (fun _ _ => place_shape) (rel_of_map_eq hitems)
    types := htypes
    nullable := ?_
    enum := henum
    docs := trivial
    literal := fun _ _ _ => trivial
    allOf := hplaces hallOf
    anyOf := hplaces hanyOf
    oneOf := hplaces honeOf
    discriminator := ?_ }
  · exact (Schema.isNullable_withoutDocs _).symm.trans (hnullable.trans (Schema.isNullable_withoutDocs _))
  · rw [hdiscriminator]
    exact rel_refl (fun _ => ⟨rfl, fun _ => rfl, fun r r' hr => congrArg _ hr⟩) _

end Pairing

namespace Document

variable {d d' : Document}

theorem holds_shape (h : d.undocumented = d'.undocumented) : Pairing.shape.Holds d d' where
  nodes := Node.congruence_sameShape
  schema _ _ hs := Pairing.alongside_shape hs
  text r r' q q' hr hq := by rw [show r = r' from hr, show q = q' from hq]
  normalized _ _ hr := congrArg Ref.normalized hr
  locationOf r r' l l' hr hl := by
    rw [show r = r' from hr, show l = l' from hl]
    rfl
  append l l' part hl := congrArg (· ++ part) hl
  step r r' hr := by
    obtain rfl : r = r' := hr
    have hstep : (stepFrom Schema d r).map (Schema.revisedPlace .undocumented) =
        (stepFrom Schema d' r).map (Schema.revisedPlace .undocumented) := by
      rw [← stepFrom_schema_revised, ← stepFrom_schema_revised]
      exact congrArg (stepFrom Schema · r) h
    generalize stepFrom Schema d r = found at hstep ⊢
    generalize stepFrom Schema d' r = found' at hstep ⊢
    cases found with
    | error e =>
      cases found' with
      | error e' => exact .error (Except.error.inj hstep)
      | ok place' => cases hstep
    | ok place =>
      cases found' with
      | error e' => cases hstep
      | ok place' => exact .ok (Pairing.place_shape (Except.ok.inj hstep))
  cycle r r' hr := by
    rw [show r = r' from hr]
    rfl
  unresolved r r' e e' hr he := by
    rw [show r = r' from hr, show e = e' from he]
    rfl
  endless := rfl

/-! ## Named schemas -/

theorem schemas_alongside (h : d.undocumented = d'.undocumented) :
    List.Forall₂ (NamedSchema.Alongside .shape d d') d.schemas d'.schemas := by
  have hschemas := congrArg schemas h
  unfold undocumented at hschemas
  rw [schemas_revised, schemas_revised] at hschemas
  refine (map_eq_map_iff.1 hschemas).imp fun x x' hx => ?_
  have hplace := congrArg NamedSchema.schema hx
  have hx := NamedSchema.mk.inj hx
  refine ⟨hx.1, hx.2.2, Pairing.place_shape hplace, ?_⟩
  have hsteps : d.undocumented.stepsFor (Schema.revisedPlace .undocumented x.schema) =
      d'.undocumented.stepsFor (Schema.revisedPlace .undocumented x'.schema) := by
    rw [h]
    exact congrArg _ hplace
  unfold undocumented at hsteps
  rwa [stepsFor_revised, stepsFor_revised] at hsteps

end Document

namespace Session

variable {d d' : Document}

/-- Documentation does not affect the shapes of named schemas. If documents differ in documentation
only, their named schemas are normalized with the same success or failure and with the same
diagnostics, and what comes of them has the same names, in the same order, and is equal without
documentation. -/
theorem components_undocumented (config : Config) (h : d.undocumented = d'.undocumented) :
    ((start d config).components d.schemas).2 = ((start d' config).components d'.schemas).2 ∧
      ((start d config).components d.schemas).1.diagnostics =
        ((start d' config).components d'.schemas).1.diagnostics ∧
      (((start d config).components d.schemas).1.model.schemas.map
          fun e => (e.1, e.2.undocumented)) =
        ((start d' config).components d'.schemas).1.model.schemas.map
          fun e => (e.1, e.2.undocumented) := by
  have hsame := congrArg Document.info h
  have hinfo : d.info = d'.info := hsame
  have hstart : (start d config).Alongside .shape (start d' config) := ⟨.nil, hinfo, .nil, rfl⟩
  obtain ⟨hsession, hresult⟩ := components_alongside (Document.holds_shape h)
    (Document.schemas_alongside h) rfl rfl hstart
  refine ⟨hresult.eq, ?_, map_eq_map_iff.2 (hsession.schemas.imp ?_)⟩
  · rw [← List.forall₂_eq_eq_eq]
    exact hsession.diagnostics.imp fun _ _ => Diagnostic.Alongside.eq
  · exact fun e e' he => Prod.ext he.1 he.2.undocumented

/-- A color and a paint, with all that can be said about them. -/
def documentedPaints : Document :=
  { definitions := [
      ("Color", .inline {
        enum := some [.string "red", .string "blue"]
        description := some "What a paint looks like"
        default := some (.string "red")
        extensions := [("x-enum-varnames", .array [.string "RED", .string "BLUE"])] }),
      ("Paint", .inline {
        allOf := some [
          .inline { types := [.object], description := some "Whatever can be painted with" },
          .inline { title := some "Nothing else" }]
        deprecated := some true
        extensions := [("x-nullable", .bool true)] })] }

/-- A color and a paint, and a word about one of them. -/
def plainPaints : Document :=
  { definitions := [
      ("Color", .inline { enum := some [.string "red", .string "blue"], title := some "Color" }),
      ("Paint", .inline {
        allOf := some [.inline { types := [.object] }, .inline {}]
        extensions := [("x-go-type", .string "Paint"), ("x-nullable", .bool true)] })] }

theorem components_undocumented_paints :
    documentedPaints.undocumented = plainPaints.undocumented ∧
      ((start documentedPaints {}).components documentedPaints.schemas).2 = .ok () ∧
      ((start plainPaints {}).components plainPaints.schemas).2 = .ok () := by
  have hsame : documentedPaints.undocumented = plainPaints.undocumented := rfl
  have hok : ((start documentedPaints {}).components documentedPaints.schemas).2 = .ok () := rfl
  exact ⟨hsame, hok, (components_undocumented {} hsame).1.symm.trans hok⟩

end Session

end ApiShape
