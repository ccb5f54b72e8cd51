import ApiShape.Proofs.Document.SchemaNames
import ApiShape.Proofs.Normalize.Building
import Mathlib

/-!
# References to named schemas

All the references in a normalized document are made of references that resolve. Those that are read
as references to named schemas come from references to named schemas, which are all normalized, so a
normalized document has every schema that its nodes refer to.
-/

namespace ApiShape

namespace Session

variable {s s' : Session} {named : List Document.NamedSchema}

/-- The named schemas are all kept, besides those that were there. -/
theorem has_of_components (h : s.components named = (s', .ok ())) :
    (∀ c ∈ named, Dict.has s'.model.schemas c.name = true) ∧
      ∀ name, Dict.has s.model.schemas name = true → Dict.has s'.model.schemas name = true := by
  induction named generalizing s with
  | nil =>
    cases h
    refine ⟨fun c hc => ?_, fun _ h => h⟩
    cases hc
  | cons c rest ih =>
    rw [components] at h
    cases hc : (s.document.normalizeComponent c.name c.schema c.location).result with
    | error e =>
      simp only [component, hc] at h
      cases h
    | ok n =>
      simp only [component, hc] at h
      obtain ⟨hrest, hkept⟩ := ih h
      have hinsert : ∀ name, c.name = name ∨ Dict.has s.model.schemas name = true →
          Dict.has (s.model.insertSchema c.name n).schemas name = true := by
        intro name hname
        change Dict.has (Dict.insert s.model.schemas c.name n) name = true
        rw [Dict.has, Dict.get?_insert]
        by_cases hk : c.name = name
        · rw [if_pos hk]
          rfl
        · rw [if_neg hk]
          exact hname.resolve_left hk
      refine ⟨fun c' hc' => ?_, fun name hname => hkept name (hinsert name (.inr hname))⟩
      rcases List.mem_cons.1 hc' with rfl | hc'
      · exact hkept _ (hinsert _ (.inl rfl))
      · exact hrest c' hc'

end Session

namespace Document

variable {d : Document} {config : Config} {r : Normalized} {n : Node} {name : String}

/-- The reference of a node, if it has one, is made of a reference that resolves. -/
def Cites (d : Document) (n : Node) : Prop :=
  ∀ reference ∈ n.reference, ∃ r s, d.resolve Schema r = .ok s ∧ reference = r.normalized

theorem building_cites (d : Document) : Node.Building (fun _ => True) d.Cites where
  empty := trivial
  insert _ _ _ _ := trivial
  bare n hr _ _ reference h := by
    rw [hr] at h
    cases h
  object n hr _ _ reference h := by
    rw [hr] at h
    cases h
  same n m hr _ _ hn reference h := hn reference (hr ▸ h)
  promoted _ _ hn _ := hn

theorem preserves_cites (d : Document) : d.Preserves (Node.Everywhere d.Cites) where
  schema component place location n h := by
    refine h.everywhere d.building_cites (S := fun _ => True)
      ⟨fun _ _ _ _ => trivial, fun _ _ _ _ _ _ => trivial⟩ (fun _ _ _ _ => trivial) ?_ trivial
    intro r s hs reference href
    exact ⟨r, s, hs, (Option.some.inj href).symm⟩
  nothing type _ := d.building_cites.everywhere_ofType type
  described n description h := d.building_cites.everywhere_withDocs h _
  object properties required hproperties _ := by
    refine Node.everywhere_iff.2 ⟨fun reference h => ?_, fun c hc => ?_⟩
    · cases h
    · simp only [Node.children, List.nil_append, Option.toList_none, List.append_nil,
        List.mem_map] at hc
      obtain ⟨e, he, rfl⟩ := hc
      exact hproperties e he
  union items h := d.building_cites.everywhere_dedupe_composition h

/-- The schemas that were normalized are all there. -/
theorem has_of_mem_schemas (h : d.normalize config = .ok r) {c : NamedSchema}
    (hc : c ∈ d.schemas) : Dict.has r.model.schemas c.name = true := by
  unfold normalize at h
  split at h
  · cases h
  · rename_i s hs
    split at h
    · cases h
    · rename_i s' hs'
      cases h
      obtain ⟨rfl, _⟩ := Prod.mk.inj hs'
      dsimp only
      rw [Model.schemas_foldl_insertOperation]
      exact (Session.has_of_components hs).1 c hc

/-- A normalized document has every named schema that one of its nodes refers to. The node of a
reference refers to the schema that the reference names, and to none if the reference names none. -/
theorem componentName?_closed (d : Document) :
    (∀ config r, d.normalize config = .ok r → ∀ n ∈ r.model.nested, ∀ name,
      n.componentName? = some name → Dict.has r.model.schemas name = true) ∧
    ∀ ref s location, d.resolve Schema ref = .ok s →
      ∃ n, (d.normalizeSchema (.ref ref) location).result = .ok n ∧
        n.componentName? = ref.schemaName? := by
  constructor
  · intro config r h n hn name hname
    obtain ⟨root, hroot, hn⟩ := List.mem_flatMap.1 hn
    have hcites : d.Cites n := d.preserves_cites.forall_mem_nodes h root hroot n hn
    unfold Node.componentName? at hname
    cases href : n.reference with
    | none =>
      rw [href] at hname
      cases hname
    | some reference =>
      obtain ⟨ref, s, hs, rfl⟩ := hcites reference href
      rw [href] at hname
      change (Node.ofReference ref.normalized).componentName? = some name at hname
      rw [componentName?_normalized hs] at hname
      obtain ⟨c, hc, rfl⟩ := exists_mem_schemas_of_resolve hs hname
      exact has_of_mem_schemas h hc
  · intro ref s location hs
    have hnode : d.Normalizes none (.ref ref) location (.ofReference ref.normalized) :=
      normalizes_ref_iff.2 ⟨⟨s, hs⟩, rfl⟩
    obtain ⟨steps, hnode⟩ := hnode
    refine ⟨_, ?_, componentName?_normalized hs⟩
    unfold normalizeSchema
    rw [normalizeWithin] at hnode ⊢
    exact hnode

/-- A shed full of tools, which it refers to by a name with a slash, written with a percent sign. -/
def shedDocument : Document :=
  { definitions := [
      ("hand/tool", .inline { types := [.string] }),
      ("Shed", .inline {
        types := [.array]
        items := some (.ref ⟨"#/definitions/hand%7E1tool"⟩) })] }

/-- What becomes of the shed. -/
def shedModel : Model :=
  { schemas := [
      ("hand/tool", .ofType .string),
      ("Shed", {
        type := some .array
        items := [.ofReference "#/components/schemas/hand~1tool"] })] }

theorem componentName?_closed_shed :
    shedDocument.normalize {} = .ok ⟨shedModel, []⟩ ∧
      (∃ n ∈ shedModel.nested, n.componentName? = some "hand/tool" ∧
        Dict.has shedModel.schemas "hand/tool" = true) ∧
      ∃ n, (shedDocument.normalizeSchema (.ref ⟨"#/definitions/hand%7E1tool"⟩) "").result = .ok n ∧
        n.componentName? = some "hand/tool" := by
  have h : shedDocument.normalize {} = .ok ⟨shedModel, []⟩ := by cbv
  have hresolve : shedDocument.resolve Schema ⟨"#/definitions/hand%7E1tool"⟩ =
      .ok { types := [.string] } := by cbv
  have hname : (Node.ofReference "#/components/schemas/hand~1tool").componentName? =
      some "hand/tool" := by cbv
  have hsource : Ref.schemaName? ⟨"#/definitions/hand%7E1tool"⟩ = some "hand/tool" := by cbv
  have hmem : Node.ofReference "#/components/schemas/hand~1tool" ∈ shedModel.nested :=
    List.mem_cons_of_mem _ (List.mem_cons_of_mem _ List.mem_cons_self)
  obtain ⟨hclosed, hnode⟩ := componentName?_closed shedDocument
  refine ⟨h, ⟨_, hmem, hname, hclosed {} _ h _ hmem _ hname⟩, ?_⟩
  rw [← hsource]
  exact hnode _ _ "" hresolve

end Document

end ApiShape
