import ApiShape.Proofs.Document.DistinctNames
import ApiShape.Proofs.Normalize.Layer
import Mathlib

/-!
# Tags that are demanded and tags that are declared

A union demands a tag of every branch that is a reference, and a named component declares one beside a
parent that it refers to. Both come from the mapping of the parent. The component takes the first entry
that names it; the union takes the first entry with the text of its reference, if there is one. So they
differ where another entry names the component earlier.
-/

namespace ApiShape

/-- A reference to a named schema ends in the name of the schema. -/
theorem Ref.name_of_schemaName? {r : Ref} {name : String} (h : r.schemaName? = some name) :
    r.name = name := by
  unfold schemaName? at h
  unfold Ref.name
  cases hp : r.pointer with
  | error e =>
    rw [hp] at h
    cases h
  | ok p =>
    rw [hp] at h
    dsimp only at h ⊢
    -- Either root of named schemas has the name behind it.
    unfold namedSchema? at h
    split at h
    · rename_i hsegments
      rw [hsegments]
      exact Option.some.inj h
    · rename_i hsegments
      rw [hsegments]
      exact Option.some.inj h
    · cases h

namespace Discriminator

variable {x : Discriminator} {r : Ref} {name : String}

/-- The text of a reference to a named schema names the schema. -/
theorem valueNames_text (h : r.schemaName? = some name) : valueNames r.text name = true := by
  have hparse : Ref.parse r.text = .ok r := by
    unfold Ref.parse
    cases hp : Ref.pointer ⟨r.text⟩ with
    | ok p => rfl
    | error e =>
      unfold Ref.schemaName? at h
      rw [hp] at h
      cases h
  unfold valueNames
  rw [hparse]
  exact beq_iff_eq.2 h

/-- No entry before the first with the text of the reference names the schema, if there is an entry with
the text at all. -/
def TextFirst (x : Discriminator) (r : Ref) (name : String) : Prop :=
  r.text ∉ x.mapping.map (·.2) ∨
    ∃ before tag after, x.mapping = before ++ (tag, r.text) :: after ∧
      ∀ e ∈ before, valueNames e.2 name = false

theorem tagForRef_of_notMem (h : r.schemaName? = some name) (htext : r.text ∉ x.mapping.map (·.2)) :
    x.tagForRef r = x.tagForName name := by
  have hnone : x.mapping.find? (fun e => e.2 == r.text) = none := by
    rw [List.find?_eq_none]
    intro e he heq
    exact htext (List.mem_map.2 ⟨e, he, beq_iff_eq.1 heq⟩)
  unfold tagForRef
  rw [hnone, Ref.name_of_schemaName? h]

theorem find?_append_of_first {P : String → Bool} {before after : List (String × String)}
    {e : String × String} (hbefore : ∀ e ∈ before, P e.2 = false) (he : P e.2 = true) :
    (before ++ e :: after).find? (fun e => P e.2) = some e := by
  rw [List.find?_eq_some_iff_append]
  refine ⟨he, before, after, rfl, fun e he => ?_⟩
  rw [hbefore e he]
  rfl

/-- Both tags are that of the first entry with the text, if no entry before it names the schema. -/
theorem tagForRef_of_first {before after : List (String × String)} {tag : String}
    (h : r.schemaName? = some name) (hmapping : x.mapping = before ++ (tag, r.text) :: after)
    (hbefore : ∀ e ∈ before, valueNames e.2 name = false) :
    x.tagForRef r = tag ∧ x.tagForName name = tag := by
  have htext : ∀ e ∈ before, (e.2 == r.text) = false := by
    intro e he
    rw [beq_eq_false_iff_ne]
    intro heq
    have hnames := hbefore e he
    rw [heq, valueNames_text h] at hnames
    cases hnames
  have hexact : (before ++ (tag, r.text) :: after).find? (fun e => e.2 == r.text) =
      some (tag, r.text) :=
    find?_append_of_first (P := (· == r.text)) htext (beq_self_eq_true r.text)
  have hnamed : (before ++ (tag, r.text) :: after).find? (fun e => valueNames e.2 name) =
      some (tag, r.text) :=
    find?_append_of_first (P := (valueNames · name)) hbefore (valueNames_text h)
  constructor
  · unfold tagForRef
    rw [hmapping, hexact]
  · unfold tagForName
    rw [hmapping, hnamed]

/-- As tags are distinct, both are the same only if they come from one entry. -/
theorem textFirst_of_tagForRef_eq (hkeys : Dict.Distinct x.mapping) (h : r.schemaName? = some name)
    (htags : x.tagForRef r = x.tagForName name) : x.TextFirst r name := by
  by_cases htext : r.text ∈ x.mapping.map (·.2)
  · right
    -- The first entry with the text names the schema, so some entry is the first to name it.
    obtain ⟨e, he, hvalue⟩ := List.mem_map.1 htext
    cases hexact : x.mapping.find? (fun e => e.2 == r.text) with
    | none => exact absurd (beq_iff_eq.2 hvalue) (List.find?_eq_none.1 hexact e he)
    | some f =>
      cases hnamed : x.mapping.find? (fun e => valueNames e.2 name) with
      | none =>
        have hnot := List.find?_eq_none.1 hnamed e he
        rw [hvalue] at hnot
        exact absurd (valueNames_text h) hnot
      | some g =>
        unfold tagForRef tagForName at htags
        rw [hexact, hnamed] at htags
        dsimp only at htags
        have hf := Dict.get?_eq_some_of_mem hkeys (List.mem_of_find?_eq_some hexact)
        have hg := Dict.get?_eq_some_of_mem hkeys (List.mem_of_find?_eq_some hnamed)
        rw [htags, hg] at hf
        have hsame : g.2 = f.2 := Option.some.inj hf
        have hfound := List.find?_some hexact
        have hftext : f.2 = r.text := beq_iff_eq.1 hfound
        obtain ⟨-, before, after, hmapping, hbefore⟩ := List.find?_eq_some_iff_append.1 hnamed
        refine ⟨before, g.1, after, ?_, fun e he => ?_⟩
        · rw [hmapping, ← hftext, ← hsame]
        · have hnot := hbefore e he
          rwa [Bool.not_eq_true'] at hnot
  · exact .inl htext

theorem tagForRef_eq_tagForName_iff (hkeys : Dict.Distinct x.mapping) (h : r.schemaName? = some name) :
    x.tagForRef r = x.tagForName name ↔ x.TextFirst r name := by
  constructor
  · exact textFirst_of_tagForRef_eq hkeys h
  · rintro (htext | ⟨before, tag, after, hmapping, hbefore⟩)
    · exact tagForRef_of_notMem h htext
    · obtain ⟨hr, hname⟩ := tagForRef_of_first h hmapping hbefore
      rw [hr, hname]

end Discriminator

namespace Schema

/-- The tag of a union that a component refers to is demanded of the component's branch as it is declared
by the component, with the same property, exactly if the text of the branch comes first in the mapping
among all that names the component. -/
theorem demandedTag_eq_declaredTag_iff {x : Discriminator} {r : Ref} {name : String}
    (hkeys : Dict.Distinct x.mapping) (hname : r.schemaName? = some name) :
    (x.tagForRef r = x.tagForName name ↔ x.TextFirst r name) ∧
    ∀ (d : Document) (parent : Schema) (q : Ref), parent.discriminator = some x →
      d.resolve Schema q = .ok parent →
      (tagOf? d name q).result = .ok (some (Node.tagged x.propertyName (x.tagForName name)
        (parent.required.contains x.propertyName))) ∧
      ∀ normalize kind location i n,
        (normalize (.ref r) (locate location [kind.keyword, toString i])).result = .ok n →
        (parent.unionBranch normalize kind location (.ref r, i)).result =
          .ok [Node.composition .and [Node.tagged x.propertyName (x.tagForRef r) false, n]] := by
  refine ⟨Discriminator.tagForRef_eq_tagForName_iff hkeys hname, fun d parent q hx hq => ⟨?_, ?_⟩⟩
  · unfold tagOf? Document.resolved
    rw [hq, Report.bind_eq_ok]
    refine ⟨parent, rfl, ?_⟩
    rw [hx]
    rfl
  · intro normalize kind location i n hn
    rw [unionBranch_eq_ok]
    refine ⟨n, hn, ?_⟩
    unfold alternative UnionKind.members
    rw [hx]
    -- An intersection is not lifted into the union.
    cases kind.lifts <;> rfl

/-- Pets, with a second tag for cats after the one with the reference that the union has. -/
def petKinds : Discriminator :=
  { propertyName := "kind"
    mapping := [("dog", "Dog"), ("cat", "#/components/schemas/Cat"), ("feline", "Cat")] }

/-- A union of cats, of which a cat is told by the kinds of pets. -/
def catsDocument : Document :=
  { components := some {
      schemas := [
        ("Pet", .inline {
          required := ["kind"]
          oneOf := some [.ref ⟨"#/components/schemas/Cat"⟩]
          discriminator := some petKinds }),
        ("Cat", .inline { allOf := some [.ref ⟨"#/components/schemas/Pet"⟩] })] } }

theorem demandedTag_eq_declaredTag_iff_cats :
    Dict.Distinct petKinds.mapping ∧ Ref.schemaName? ⟨"#/components/schemas/Cat"⟩ = some "Cat" ∧
      petKinds.tagForRef ⟨"#/components/schemas/Cat"⟩ = petKinds.tagForName "Cat" ∧
      (tagOf? catsDocument "Cat" ⟨"#/components/schemas/Pet"⟩).result =
        .ok (some (Node.tagged "kind" "cat" true)) := by
  have hkeys : Dict.Distinct petKinds.mapping := by decide
  have hname : Ref.schemaName? ⟨"#/components/schemas/Cat"⟩ = some "Cat" := by cbv
  have hdog : Discriminator.valueNames "Dog" "Cat" = false := by cbv
  have hfirst : petKinds.TextFirst ⟨"#/components/schemas/Cat"⟩ "Cat" :=
    .inr ⟨[("dog", "Dog")], "cat", [("feline", "Cat")], rfl,
      fun e he => by rw [List.mem_singleton.1 he]; exact hdog⟩
  have hresolve : catsDocument.resolve Schema ⟨"#/components/schemas/Pet"⟩ = .ok {
      required := ["kind"]
      oneOf := some [.ref ⟨"#/components/schemas/Cat"⟩]
      discriminator := some petKinds } := by cbv
  obtain ⟨hagree, hnodes⟩ := demandedTag_eq_declaredTag_iff hkeys hname
  obtain ⟨hdeclared, -⟩ := hnodes _ _ _ rfl hresolve
  have htag : petKinds.tagForName "Cat" = "cat" := by cbv
  rw [htag] at hdeclared
  exact ⟨hkeys, hname, hagree.2 hfirst, hdeclared⟩

/-- Cats, by name and by reference. -/
def catKinds : Discriminator :=
  { propertyName := "kind", mapping := [("cat", "Cat"), ("feline", "#/components/schemas/Cat")] }

/-- Where the name of the component comes before the text of the reference, the union demands a tag that
the component does not declare. -/
theorem not_demandedTag_eq_declaredTag_catKinds :
    Dict.Distinct catKinds.mapping ∧ Ref.schemaName? ⟨"#/components/schemas/Cat"⟩ = some "Cat" ∧
      catKinds.tagForRef ⟨"#/components/schemas/Cat"⟩ = "feline" ∧
      catKinds.tagForName "Cat" = "cat" ∧
      catKinds.tagForRef ⟨"#/components/schemas/Cat"⟩ ≠ catKinds.tagForName "Cat" := by
  have href : catKinds.tagForRef ⟨"#/components/schemas/Cat"⟩ = "feline" := by cbv
  have hname : catKinds.tagForName "Cat" = "cat" := by cbv
  refine ⟨by decide, by cbv, href, hname, ?_⟩
  rw [href, hname]
  decide

end Schema

end ApiShape
