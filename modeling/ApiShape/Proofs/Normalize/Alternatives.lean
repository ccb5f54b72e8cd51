import ApiShape.Proofs.Node.Interpretation
import ApiShape.Proofs.Normalize.Normal

/-!
# Alternatives of unions

A union keeps what its alternatives accept unless one of them came to the empty node, which accepts
everything and is left out all the same. The union of a nullable intersection with null loses the
intersection in the same way.
-/

namespace ApiShape

namespace Schema

variable {d : Document} {normalize : Normalizer} {s : Schema} {location : String} {n : Node}

/-! ## The intersection without null -/

/-- The schema with null taken out in all its spellings. -/
def nonNull (s : Schema) : Schema :=
  { s with
    nullable := false
    types := s.types.filter (· ≠ .null)
    extensions := s.extensions.filter fun e => e.1 ≠ "x-nullable" }

theorem isNullable_nonNull (s : Schema) : s.nonNull.isNullable = false := by
  have hx : s.nonNull.extension? "x-nullable" = none :=
    Dict.get?_filter_ne s.extensions "x-nullable"
  have hnull : s.nonNull.types.contains .null = false := by
    rw [← Bool.not_eq_true, List.contains_iff_mem]
    intro h
    exact of_decide_eq_true (List.mem_filter.1 h).2 rfl
  unfold isNullable
  rw [hx, hnull]
  rfl

theorem infersObject_nonNull (s : Schema) : s.nonNull.infersObject = s.infersObject := by
  have hobject : s.nonNull.types.contains .object = s.types.contains .object := by
    rw [Bool.eq_iff_iff, List.contains_iff_mem, List.contains_iff_mem]
    exact ⟨fun h => (List.mem_filter.1 h).1, fun h => List.mem_filter.2 ⟨h, rfl⟩⟩
  unfold infersObject
  rw [hobject]
  rfl

/-- Null plays no part in what a schema takes over. -/
theorem takeOver_nonNull (properties : Dict Node) (names : List String) :
    s.nonNull.takeOver d normalize location properties names =
      s.takeOver d normalize location properties names := by
  -- The ancestors come from the branches and from the references, which both stay.
  refine takeOver_congr ?_ properties names
  cases s
  rfl

theorem ownShape_nonNull :
    s.nonNull.ownShape d normalize location = s.ownShape d normalize location := by
  unfold ownShape
  rw [infersObject_nonNull]
  simp only [takeOver_nonNull]
  rfl

theorem form_nonNull {branches : List (RefOr Schema)} (h : s.form = .allOf branches) :
    s.nonNull.form = .allOf branches := by
  rw [form_eq_allOf_iff] at h ⊢
  exact h

/-- A nullable intersection is the union with null of the intersection without null. -/
theorem intersection_nonNull {component : Option String} {branches : List (RefOr Schema)}
    (hnull : s.isNullable = true)
    (h : (s.intersection d normalize component location branches).result = .ok n) :
    ∃ i, (s.nonNull.intersection d normalize component location branches).result = .ok i ∧
      n = orNull i := by
  -- The items are the same either way; only the last step asks for null.
  obtain ⟨items, shape, hitems, hshape, rfl⟩ := intersection_eq_ok.1 h
  refine ⟨s.intersectionOf (items.flatten ++ shape), ?_, ?_⟩
  · refine intersection_eq_ok.2 ⟨items, shape, hitems, ?_, ?_⟩
    · rw [ownShape_nonNull]
      exact hshape
    · rw [isNullable_nonNull]
      rfl
  · rw [hnull]
    rfl

/-! ## Alternatives -/

/-- The branches of a union have alternatives, of which the union holds the members. -/
theorem exists_alternatives {kind : UnionKind} {branches : List (RefOr Schema × Nat)}
    {members : List (List Node)}
    (h : List.Forall₂ (fun branch ms =>
      (s.unionBranch normalize kind location branch).result = .ok ms) branches members) :
    ∃ alternatives, List.Forall₂ (fun branch a => ∃ m,
        (normalize branch.1 (locate location [kind.keyword, toString branch.2])).result = .ok m ∧
          a = s.alternative branch.1 m) branches alternatives ∧
      members = alternatives.map kind.members := by
  induction h with
  | nil => exact ⟨[], .nil, rfl⟩
  | cons hbranch _ ih =>
    obtain ⟨m, hm, rfl⟩ := unionBranch_eq_ok.1 hbranch
    obtain ⟨alternatives, halternatives, rfl⟩ := ih
    exact ⟨_ :: alternatives, .cons ⟨m, hm, rfl⟩ halternatives, rfl⟩

open Node in
/-- A union accepts what an alternative accepts that says something. -/
theorem below_unionOf {Shaped : Node → Node → Prop} {kind : UnionKind} {alternatives : List Node}
    {a : Node} (hnormal : ∀ a ∈ alternatives, a.Normal Shaped) (ha : a ∈ alternatives)
    (hempty : a.isEmpty = false) :
    a.Below (s.unionOf (alternatives.map kind.members).flatten) := by
  intro V I v h
  have hitems : ∀ m ∈ (alternatives.map kind.members).flatten, m.Normal Shaped := by
    intro m hm
    obtain ⟨ms, hms, hm⟩ := List.mem_flatten.1 hm
    obtain ⟨b, hb, rfl⟩ := List.mem_map.1 hms
    exact normal_members kind (hnormal b hb) m hm
  -- What accepts the value for the alternative: one of its items, if those are lifted.
  have hmember : ∃ m ∈ kind.members a, m.isEmpty = false ∧ I.accepts m v := by
    unfold UnionKind.members
    split
    · rename_i hlifts
      rw [Bool.and_eq_true] at hlifts
      have ho : a.operator = some .or := eq_of_beq hlifts.2
      obtain ⟨m, hm, hv⟩ := (I.union a v ho).1 h
      exact ⟨m, hm, (hnormal a ha).isEmpty_of_mem ho hm, hv⟩
    · exact ⟨a, List.mem_singleton_self a, hempty, h⟩
  obtain ⟨m, hm, hmempty, hv⟩ := hmember
  have hmem : m ∈ (alternatives.map kind.members).flatten :=
    List.mem_flatten.2 ⟨_, List.mem_map.2 ⟨a, ha, rfl⟩, hm⟩
  exact below_dedupe_union (normal_append_null hitems) (List.mem_append_left _ hmem) hmempty V I v hv

end Schema

namespace Document

open Node

variable {d : Document} {component : Option String} {s : Schema} {location : String} {n : Node}

/-- An empty node is left out of its union with null. -/
theorem orNull_of_isEmpty {i : Node}
    (h : Node.isEmpty { i with docs := { default := i.docs.default } } = true) :
    ∃ docs, Schema.orNull i = { ofType .null with docs } := by
  have hs : survivors .or [{ i with docs := { default := i.docs.default } }, ofType .null] =
      [ofType .null] := by
    unfold survivors
    rw [List.filter_cons_of_neg, List.filter_cons_of_pos]
    · rfl
    · rfl
    · unfold isDroppable
      rw [h]
      exact Bool.false_ne_true
  exact ⟨_, dedupeAs_of_single_leaf rfl hs rfl rfl⟩

theorem below_orNull_iff {Shaped : Node → Node → Prop} {i : Node} (h : i.Normal Shaped) :
    i.Below (Schema.orNull i) ↔
      Node.isEmpty { i with docs := { default := i.docs.default } } = false := by
  constructor
  · intro hbelow
    rw [← Bool.not_eq_true]
    intro hempty
    have hunconstrained : i.Unconstrained :=
      (unconstrained_withDocs i _).1 (unconstrained_of_isEmpty hempty)
    obtain ⟨docs, hnull⟩ := orNull_of_isEmpty hempty
    rw [hnull, below_iff_of_unconstrained hunconstrained] at hbelow
    exact not_unconstrained_of_leaf rfl rfl hbelow
  · intro hempty V I v hv
    have hitems : ∀ m ∈ [{ i with docs := { default := i.docs.default } }, ofType .null],
        m.Normal Shaped := by
      intro m hm
      rcases List.mem_cons.1 hm with rfl | hm
      · exact h.withDocs h.default_eq_none
      · exact List.mem_singleton.1 hm ▸ normal_ofType rfl
    have hbare : I.accepts { i with docs := { default := i.docs.default } } v :=
      (I.documentation i _ v).2 hv
    exact below_dedupe_union hitems List.mem_cons_self hempty V I v hbare

theorem exists_alternatives_below_iff {kind : Schema.UnionKind} {branches : List (RefOr Schema)}
    (hbranches : s.unionBranches? = some (kind, branches)) (hp : s.properties.getD [] = [])
    (h : d.Normalizes component (.inline s) location n) :
    ∃ alternatives,
      List.Forall₂ (fun branch a => ∃ m,
          d.Normalizes none branch.1 (locate location [kind.keyword, toString branch.2]) m ∧
            a = s.alternative branch.1 m) branches.zipIdx alternatives ∧
        ((∀ a ∈ alternatives, a.Below n) ↔
          (∀ a ∈ alternatives, a.isEmpty = false) ∨ n.Unconstrained) := by
  obtain ⟨steps, h⟩ := normalizes_inline_iff.1 h
  rw [Schema.normalizeLayer_of_unionBranches? hbranches] at h
  obtain ⟨members, hmembers, rfl⟩ := Schema.union_eq_ok_of_nil hp h
  obtain ⟨alternatives, halternatives, rfl⟩ := Schema.exists_alternatives hmembers
  have hnormal : ∀ a ∈ alternatives, a.Normal d.JoinsShape := by
    intro a ha
    obtain ⟨branch, _, m, hm, rfl⟩ := exists_left_of_forall₂ halternatives ha
    refine Schema.normal_alternative ?_ (Normalizes.normal ⟨steps, hm⟩)
    intro r hr
    rw [hr] at hm
    exact ⟨_, (normalizes_ref_iff.1 ⟨steps, hm⟩).2⟩
  refine ⟨alternatives, halternatives.imp fun branch a ⟨m, hm, ha⟩ => ⟨m, ⟨steps, hm⟩, ha⟩, ?_⟩
  constructor
  · intro hbelow
    by_cases hempty : ∃ a ∈ alternatives, a.isEmpty = true
    · -- What is left of the union has to accept everything, as the empty alternative does.
      obtain ⟨a, ha, hempty⟩ := hempty
      have hunconstrained := unconstrained_of_isEmpty hempty
      exact .inr ((below_iff_of_unconstrained hunconstrained).1 (hbelow a ha))
    · exact .inl fun a ha => Bool.eq_false_iff.2 fun hempty' => hempty ⟨a, ha, hempty'⟩
  · rintro (hempty | hunconstrained) a ha
    · exact Schema.below_unionOf hnormal ha (hempty a ha)
    · exact fun V I v _ => hunconstrained.accepts I v

theorem exists_nonNull_below_iff {branches : List (RefOr Schema)} (hform : s.form = .allOf branches)
    (hnull : s.isNullable = true) (h : d.Normalizes component (.inline s) location n) :
    ∃ i, d.Normalizes component (.inline s.nonNull) location i ∧
      (i.Below n ↔ Node.isEmpty { i with docs := { default := i.docs.default } } = false) := by
  obtain ⟨steps, h⟩ := normalizes_inline_iff.1 h
  have hlayer : ∀ t : Schema, t.form = .allOf branches →
      t.normalizeLayer d (d.normalizeWithin steps none) component location =
        t.intersection d (d.normalizeWithin steps none) component location branches := by
    intro t ht
    unfold Schema.normalizeLayer
    rw [ht]
  rw [hlayer s hform] at h
  obtain ⟨i, hi, rfl⟩ := Schema.intersection_nonNull hnull h
  have hnormalizes : d.Normalizes component (.inline s.nonNull) location i := by
    refine normalizes_inline_iff.2 ⟨steps, ?_⟩
    rw [hlayer _ (Schema.form_nonNull hform)]
    exact hi
  exact ⟨i, hnormalizes, below_orNull_iff hnormalizes.normal⟩

/-- A union without properties of its own keeps what its alternatives accept exactly if none of them
is the empty node or it accepts everything anyway. A nullable intersection keeps what it accepts
without null exactly if that is not the empty node. -/
theorem below_iff_of_normalizes (h : d.Normalizes component (.inline s) location n) :
    (∀ kind branches, s.unionBranches? = some (kind, branches) → s.properties.getD [] = [] →
      ∃ alternatives,
        List.Forall₂ (fun branch a => ∃ m,
            d.Normalizes none branch.1 (locate location [kind.keyword, toString branch.2]) m ∧
              a = s.alternative branch.1 m) branches.zipIdx alternatives ∧
          ((∀ a ∈ alternatives, a.Below n) ↔
            (∀ a ∈ alternatives, a.isEmpty = false) ∨ n.Unconstrained)) ∧
    (∀ branches, s.form = .allOf branches → s.isNullable = true →
      ∃ i, d.Normalizes component (.inline s.nonNull) location i ∧
        (i.Below n ↔ Node.isEmpty { i with docs := { default := i.docs.default } } = false)) :=
  ⟨fun _ _ hbranches hp => exists_alternatives_below_iff hbranches hp h,
    fun _ hform hnull => exists_nonNull_below_iff hform hnull h⟩

/-- An intersection of nothing that says anything. -/
def blankIntersection : Schema :=
  { allOf := some [.inline {}] }

/-- A string, or whatever the intersection allows. -/
def blankOrString : Schema :=
  { anyOf := some [.inline blankIntersection, .inline { types := [.string] }] }

theorem normalizes_blankIntersection (d : Document) (location : String) :
    d.Normalizes none (.inline blankIntersection) location empty := by
  refine ⟨2, ?_⟩
  have h : (d.normalizeWithin 2 none (.inline blankIntersection) location).result =
      .ok (dedupe (composition .and [ofType .unknown])) := rfl
  rw [h]
  exact congrArg _ (dedupeAs_of_nil rfl rfl)

theorem normalizes_blankOrString (d : Document) (location : String) :
    d.Normalizes none (.inline blankOrString) location (ofType .string) := by
  refine ⟨3, ?_⟩
  have hblank : dedupe (composition .and [ofType .unknown]) = empty := dedupeAs_of_nil rfl rfl
  have h : (d.normalizeWithin 3 none (.inline blankOrString) location).result =
      .ok (dedupe (composition .or [dedupe (composition .and [ofType .unknown]), ofType .string])) :=
    rfl
  rw [h, hblank]
  exact congrArg _ (dedupeAs_of_single_leaf (m := ofType .string) rfl rfl rfl rfl)

/-- The intersection, or null. -/
def blankOrNull : Schema :=
  { allOf := some [.inline {}], nullable := true }

theorem normalizes_blankOrNull (d : Document) (location : String) :
    d.Normalizes none (.inline blankOrNull) location (ofType .null) := by
  refine ⟨2, ?_⟩
  have hblank : dedupe (composition .and [ofType .unknown]) = empty := dedupeAs_of_nil rfl rfl
  have h : (d.normalizeWithin 2 none (.inline blankOrNull) location).result =
      .ok (Schema.orNull (dedupe (composition .and [ofType .unknown]))) := rfl
  rw [h, hblank]
  exact congrArg _ (dedupeAs_of_single_leaf (m := ofType .null) rfl rfl rfl rfl)

theorem below_iff_of_normalizes_blank :
    (∃ alternatives,
      List.Forall₂ (fun branch a => ∃ m,
          Document.Normalizes {} none branch.1 (locate "#" ["anyOf", toString branch.2]) m ∧
            a = blankOrString.alternative branch.1 m)
          [(.inline blankIntersection, 0), (.inline { types := [.string] }, 1)] alternatives ∧
        ((∀ a ∈ alternatives, a.Below (ofType .string)) ↔
          (∀ a ∈ alternatives, a.isEmpty = false) ∨ (ofType .string).Unconstrained)) ∧
    ∃ i, Document.Normalizes {} none (.inline blankOrNull.nonNull) "#" i ∧
      (i.Below (ofType .null) ↔
        Node.isEmpty { i with docs := { default := i.docs.default } } = false) :=
  ⟨(below_iff_of_normalizes (normalizes_blankOrString {} "#")).1 ⟨"anyOf", false⟩ _ rfl rfl,
    (below_iff_of_normalizes (normalizes_blankOrNull {} "#")).2 _ rfl rfl⟩

/-- The union loses what its first branch accepts. -/
theorem not_below_blankOrString :
    Document.Normalizes {} none (.inline blankOrString) "#" (ofType .string) ∧
      Document.Normalizes {} none (.inline blankIntersection) (locate "#" ["anyOf", "0"]) empty ∧
      ¬ empty.Below (ofType .string) := by
  refine ⟨normalizes_blankOrString {} "#", normalizes_blankIntersection {} _, ?_⟩
  rw [below_iff_of_unconstrained (unconstrained_of_isEmpty rfl)]
  exact not_unconstrained_of_leaf rfl rfl

end Document

end ApiShape
