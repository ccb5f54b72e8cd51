import ApiShape.Proofs.Node.Conjuncts
import ApiShape.Proofs.Node.Nested
import ApiShape.Proofs.Source.JsonValue
import Mathlib.Data.Option.Basic

/-!
# Structural equality

What structural equality compares, part by part. Dictionaries are compared by looking up the names of
one in the other, so the comparison goes both ways only where every name occurs once.
-/

namespace ApiShape

/-! ## Lists and dictionaries that correspond -/

/-- Lists that correspond one to one correspond the other way, as far as their members do. -/
theorem forall₂_flip_of_mem {α β : Type} {R : α → β → Prop} {S : β → α → Prop} {as : List α}
    {bs : List β} (h : List.Forall₂ R as bs) (hRS : ∀ a ∈ as, ∀ b ∈ bs, R a b → S b a) :
    List.Forall₂ S bs as := by
  induction h with
  | nil => exact .nil
  | cons hab _ ih =>
    refine .cons (hRS _ List.mem_cons_self _ List.mem_cons_self hab) (ih fun a ha b hb => ?_)
    exact hRS a (List.mem_cons_of_mem _ ha) b (List.mem_cons_of_mem _ hb)

/-- Lists that correspond to a third one on either side of it correspond, as far as their members do. -/
theorem forall₂_trans_of_mem {α : Type} {R : α → α → Prop} {as bs cs : List α}
    (h : List.Forall₂ R as bs) (h' : List.Forall₂ R bs cs)
    (hR : ∀ a ∈ as, ∀ b c, R a b → R b c → R a c) : List.Forall₂ R as cs := by
  induction h generalizing cs with
  | nil => exact h'
  | cons hab _ ih =>
    cases h' with
    | cons hbc hrest =>
      refine .cons (hR _ List.mem_cons_self _ _ hab hbc) (ih hrest fun a ha => ?_)
      exact hR a (List.mem_cons_of_mem _ ha)

namespace Dict

variable {α β : Type} {R : α → β → Prop} {as : Dict α} {bs : Dict β}

/-- The dictionaries are equally long, and every entry of the first has one of its name in the second
that it is related to. -/
def Matches (R : α → β → Prop) (as : Dict α) (bs : Dict β) : Prop :=
  as.length = bs.length ∧ ∀ e ∈ as, ∃ b, bs.get? e.1 = some b ∧ R e.2 b

theorem Matches.flip {S : β → α → Prop} (h : Matches R as bs) (has : as.Distinct)
    (hbs : bs.Distinct) (hRS : ∀ e ∈ as, ∀ e' ∈ bs, R e.2 e'.2 → S e'.2 e.2) :
    Matches S bs as := by
  obtain ⟨hlength, hmatch⟩ := h
  refine ⟨hlength.symm, fun e' he' => ?_⟩
  -- No name of the second is missing in the first, which has as many.
  have hkeys : as.keys ⊆ bs.keys := by
    intro k hk
    obtain ⟨e, he, rfl⟩ := List.mem_map.1 hk
    obtain ⟨b, hb, -⟩ := hmatch e he
    exact List.mem_map.2 ⟨_, mem_of_get?_eq_some hb, rfl⟩
  have hname : e'.1 ∈ as.keys :=
    Node.mem_of_subset_of_length_eq has hkeys (by simpa [keys] using hlength)
      (List.mem_map.2 ⟨_, he', rfl⟩)
  obtain ⟨e, he, hsame⟩ := List.mem_map.1 hname
  obtain ⟨b, hb, hR⟩ := hmatch e he
  have hb' : b = e'.2 := by
    rw [hsame, get?_eq_some_of_mem hbs he'] at hb
    exact (Option.some.inj hb).symm
  refine ⟨e.2, ?_, hRS e he e' he' (hb' ▸ hR)⟩
  rw [← hsame]
  exact get?_eq_some_of_mem has he

theorem matches_self {R : α → α → Prop} (has : as.Distinct) (h : ∀ e ∈ as, R e.2 e.2) :
    Matches R as as :=
  ⟨rfl, fun e he => ⟨e.2, get?_eq_some_of_mem has he, h e he⟩⟩

theorem Matches.trans {R : α → α → Prop} {as bs cs : Dict α} (h : Matches R as bs)
    (h' : Matches R bs cs) (hR : ∀ e ∈ as, ∀ b c, R e.2 b → R b c → R e.2 c) : Matches R as cs := by
  refine ⟨h.1.trans h'.1, fun e he => ?_⟩
  obtain ⟨b, hb, hab⟩ := h.2 e he
  obtain ⟨c, hc, hbc⟩ := h'.2 (e.1, b) (mem_of_get?_eq_some hb)
  exact ⟨c, hc, hR e he b c hab hbc⟩

end Dict

/-! ## Equality of JSON values -/

namespace Number

theorem equal_comm (m n : Number) : m.equal n = n.equal m := by
  cases m <;> cases n <;> simp only [equal, Binary64.equal]
  · exact Bool.beq_comm
  · rw [Bool.beq_comm, Bool.and_comm]

theorem equal_refl (n : Number) : n.equal n = true := by
  cases n <;> simp only [equal, Binary64.equal, beq_self_eq_true, Bool.true_or]

theorem equal_trans {l m n : Number} (h : l.equal m = true) (h' : m.equal n = true) :
    l.equal n = true := by
  cases l <;> cases m <;> cases n <;>
    simp only [equal, Binary64.equal, Bool.or_eq_true, Bool.and_eq_true, beq_iff_eq] at h h' ⊢
  case int.int.int => exact h.trans h'
  case float.float.float =>
    -- Zeros are equal whatever their sign; other floats are only equal to themselves.
    rcases h with rfl | ⟨hl, hm⟩
    · exact h'
    · rcases h' with rfl | ⟨-, hn⟩
      · exact .inr ⟨hl, hm⟩
      · exact .inr ⟨hl, hn⟩
  all_goals contradiction

end Number

namespace Json

theorem equalItems_iff {as bs : List Json} :
    equalItems as bs = true ↔ List.Forall₂ (fun a b => a.equal b = true) as bs := by
  induction as generalizing bs with
  | nil => cases bs <;> simp [equalItems]
  | cons a rest ih => cases bs <;> simp [equalItems, ih]

theorem equalFields_iff {as : List (String × Json)} {bs : Dict Json} :
    equalFields as bs = true ↔ ∀ e ∈ as, ∃ b, bs.get? e.1 = some b ∧ e.2.equal b = true := by
  induction as with
  | nil => simp [equalFields]
  | cons e rest ih =>
    obtain ⟨k, a⟩ := e
    cases hget : Dict.get? bs k <;> simp [equalFields, hget, ih]

theorem equal_object_iff {as bs : Dict Json} :
    (object as).equal (object bs) = true ↔ Dict.Matches (fun a b => a.equal b = true) as bs := by
  rw [equal, Bool.and_eq_true, beq_iff_eq, equalFields_iff]
  rfl

theorem sizeOf_lt_of_mem_fields {fields : List (String × Json)} {e : String × Json}
    (h : e ∈ fields) : sizeOf e.2 < sizeOf fields := by
  have := List.sizeOf_lt_of_mem h
  cases e
  dsimp only
  rw [Prod.mk.sizeOf_spec] at this
  omega

/-- Equality of values without repeated keys is symmetric. -/
theorem equal_symm : (a b : Json) → a.source.distinctKeys = true → b.source.distinctKeys = true →
    a.equal b = true → b.equal a = true
  | .null, b, _, _, h => by
    cases b with
    | null => rfl
    | _ => cases h
  | .bool x, b, _, _, h => by
    cases b with
    | bool y => exact Bool.beq_comm.trans h
    | _ => cases h
  | .number m, b, _, _, h => by
    cases b with
    | number n => exact (Number.equal_comm n m).trans h
    | _ => cases h
  | .string s, b, _, _, h => by
    cases b with
    | string t => exact Bool.beq_comm.trans h
    | _ => cases h
  | .array as, b, ha, hb, h => by
    cases b with
    | array bs =>
      rw [Source.distinctKeys_array_iff] at ha hb
      rw [equal, equalItems_iff] at h ⊢
      refine forall₂_flip_of_mem h fun a hmem b hmem' hab => ?_
      have := List.sizeOf_lt_of_mem hmem
      exact equal_symm a b (ha a hmem) (hb b hmem') hab
    | _ => cases h
  | .object as, b, ha, hb, h => by
    cases b with
    | object bs =>
      rw [Source.distinctKeys_object_iff] at ha hb
      rw [equal_object_iff] at h ⊢
      refine h.flip ha.1 hb.1 fun e he e' he' hab => ?_
      have := sizeOf_lt_of_mem_fields he
      exact equal_symm e.2 e'.2 (ha.2 e he) (hb.2 e' he') hab
    | _ => cases h
termination_by a => sizeOf a

/-- A value without repeated keys is equal to itself. -/
theorem equal_refl (a : Json) (ha : a.source.distinctKeys = true) : a.equal a = true := by
  cases a with
  | null => rfl
  | bool x => exact beq_self_eq_true x
  | number n => exact Number.equal_refl n
  | string s => exact beq_self_eq_true s
  | array as =>
    rw [Source.distinctKeys_array_iff] at ha
    rw [equal, equalItems_iff]
    refine List.forall₂_same.2 fun a hmem => ?_
    have := List.sizeOf_lt_of_mem hmem
    exact equal_refl a (ha a hmem)
  | object as =>
    rw [Source.distinctKeys_object_iff] at ha
    rw [equal_object_iff]
    refine Dict.matches_self ha.1 fun e he => ?_
    have := sizeOf_lt_of_mem_fields he
    exact equal_refl e.2 (ha.2 e he)
termination_by sizeOf a
decreasing_by
  all_goals
    subst_vars
    simp only [Json.array.sizeOf_spec, Json.object.sizeOf_spec]
    omega

/-- Equality of values is transitive, also where keys are repeated. -/
theorem equal_trans : (a b c : Json) → a.equal b = true → b.equal c = true → a.equal c = true
  | .null, b, c, h, h' => by
    cases b with
    | null => exact h'
    | _ => cases h
  | .bool x, b, c, h, h' => by
    cases b with
    | bool y =>
      rw [equal, beq_iff_eq] at h
      rwa [h]
    | _ => cases h
  | .number m, b, c, h, h' => by
    cases b with
    | number n =>
      cases c with
      | number k => exact Number.equal_trans h h'
      | _ => cases h'
    | _ => cases h
  | .string s, b, c, h, h' => by
    cases b with
    | string t =>
      rw [equal, beq_iff_eq] at h
      rwa [h]
    | _ => cases h
  | .array as, b, c, h, h' => by
    cases b with
    | array bs =>
      cases c with
      | array cs =>
        rw [equal, equalItems_iff] at h h' ⊢
        refine forall₂_trans_of_mem h h' fun a hmem b c => ?_
        have := List.sizeOf_lt_of_mem hmem
        exact equal_trans a b c
      | _ => cases h'
    | _ => cases h
  | .object as, b, c, h, h' => by
    cases b with
    | object bs =>
      cases c with
      | object cs =>
        rw [equal_object_iff] at h h' ⊢
        refine h.trans h' fun e he b c => ?_
        have := sizeOf_lt_of_mem_fields he
        exact equal_trans e.2 b c
      | _ => cases h'
    | _ => cases h
termination_by a => sizeOf a

end Json

/-! ## Structural equality of nodes -/

namespace Node

variable {n m : Node}

/-- No name occurs twice among the properties, among the required names and inside the constant. -/
structure Proper (n : Node) : Prop extends DistinctNames n where
  const : ∀ v ∈ n.const, v.source.distinctKeys = true

instance (n : Node) : Decidable n.Proper :=
  decidable_of_iff
    ((Dict.keys n.properties).Nodup ∧ n.required.Nodup ∧
      ∀ v ∈ n.const, v.source.distinctKeys = true)
    ⟨fun h => ⟨⟨h.1, h.2.1⟩, h.2.2⟩, fun h => ⟨h.properties, h.required, h.const⟩⟩

instance (n : Node) : Decidable (n.Everywhere Proper) :=
  inferInstanceAs (Decidable (∀ m ∈ n.nested, m.Proper))

theorem beq_option_comm {α : Type} [BEq α] (h : ∀ x y : α, (x == y) = (y == x)) (a b : Option α) :
    (a == b) = (b == a) := by
  cases a <;> cases b
  case some.some x y => exact h x y
  all_goals rfl

theorem constraints_beq_comm (a b : Constraints) : (a == b) = (b == a) := by
  have hnumber : ∀ x y : Option Number, (x == y) = (y == x) := beq_option_comm Number.equal_comm
  rw [constraints_beq_eq, constraints_beq_eq, hnumber a.minimum, hnumber a.maximum,
    hnumber a.exclusiveMinimum, hnumber a.exclusiveMaximum, Bool.beq_comm (a := a.format),
    Bool.beq_comm (a := a.pattern), Bool.beq_comm (a := a.minLength),
    Bool.beq_comm (a := a.maxLength), Bool.beq_comm (a := a.minItems),
    Bool.beq_comm (a := a.maxItems), Bool.beq_comm (a := a.accessScope)]

theorem beq_option_refl {α : Type} [BEq α] (h : ∀ x : α, (x == x) = true) (a : Option α) :
    (a == a) = true := by
  cases a
  case none => rfl
  case some x => exact h x

theorem beq_option_trans {α : Type} [BEq α]
    (h : ∀ x y z : α, (x == y) = true → (y == z) = true → (x == z) = true) {a b c : Option α}
    (hab : (a == b) = true) (hbc : (b == c) = true) : (a == c) = true := by
  cases a <;> cases b <;> cases c
  case none.none.none => rfl
  case some.some.some x y z => exact h x y z hab hbc
  all_goals contradiction

theorem constraints_beq_refl (a : Constraints) : (a == a) = true := by
  have hnumber : ∀ x : Option Number, (x == x) = true := beq_option_refl Number.equal_refl
  simp only [constraints_beq_eq, hnumber, beq_self_eq_true, Bool.and_self]

theorem constraints_beq_trans {a b c : Constraints} (hab : (a == b) = true) (hbc : (b == c) = true) :
    (a == c) = true := by
  have hnumber : ∀ {x y z : Option Number}, (x == y) = true → (y == z) = true → (x == z) = true :=
    beq_option_trans fun _ _ _ => Number.equal_trans
  simp only [constraints_beq_eq, Bool.and_eq_true] at hab hbc ⊢
  obtain ⟨h1, h2, h3, h4, h5, h6, h7, h8, h9, h10, h11⟩ := hab
  obtain ⟨h1', h2', h3', h4', h5', h6', h7', h8', h9', h10', h11'⟩ := hbc
  exact ⟨PartialEquivBEq.trans h1 h1', PartialEquivBEq.trans h2 h2', hnumber h3 h3', hnumber h4 h4',
    hnumber h5 h5', hnumber h6 h6', PartialEquivBEq.trans h7 h7', PartialEquivBEq.trans h8 h8',
    PartialEquivBEq.trans h9 h9', PartialEquivBEq.trans h10 h10', PartialEquivBEq.trans h11 h11'⟩

theorem sameNames_of_perm {as bs : List String} (h : as.Perm bs) : sameNames as bs = true := by
  simp only [sameNames, Bool.and_eq_true, beq_iff_eq, List.all_eq_true, List.contains_iff_mem]
  exact ⟨h.length_eq, fun _ hname => h.subset hname⟩

theorem sameNames_trans {as bs cs : List String} (h : sameNames as bs = true)
    (h' : sameNames bs cs = true) : sameNames as cs = true := by
  simp only [sameNames, Bool.and_eq_true, beq_iff_eq, List.all_eq_true,
    List.contains_iff_mem] at h h' ⊢
  exact ⟨h.1.trans h'.1, fun name hname => h'.2 name (h.2 name hname)⟩

theorem sameNames_symm {as bs : List String} (has : as.Nodup) (h : sameNames as bs = true) :
    sameNames bs as = true := by
  simp only [sameNames, Bool.and_eq_true, beq_iff_eq, List.all_eq_true, List.contains_iff_mem] at h ⊢
  exact ⟨h.1.symm, fun _ hname => mem_of_subset_of_length_eq has h.2 h.1 hname⟩

theorem structurallyEqItems_iff {ns ms : List Node} :
    structurallyEqItems ns ms = true ↔
      List.Forall₂ (fun n m => n.structurallyEq m = true) ns ms := by
  refine ⟨forall₂_of_structurallyEqItems, fun h => ?_⟩
  induction h with
  | nil => rw [structurallyEqItems]
  | cons hnm _ ih => rw [structurallyEqItems, hnm, ih, Bool.and_self]

theorem structurallyEqProperties_iff {ns : List (String × Node)} {ms : Dict Node} :
    structurallyEqProperties ns ms = true ↔
      ∀ e ∈ ns, ∃ m, ms.get? e.1 = some m ∧ e.2.structurallyEq m = true := by
  induction ns with
  | nil => simp [structurallyEqProperties]
  | cons e rest ih =>
    obtain ⟨k, n⟩ := e
    cases hget : Dict.get? ms k <;> simp [structurallyEqProperties, hget, ih]

theorem structurallyEqOption_iff {a b : Option Node} :
    structurallyEqOption a b = true ↔ Option.Rel (fun n m => n.structurallyEq m = true) a b := by
  cases a <;> cases b <;> simp [structurallyEqOption]

/-- Structural equality is equality of the parts, and structural equality of the nodes right inside. -/
theorem structurallyEq_iff :
    n.structurallyEq m = true ↔
      (n.reference = m.reference ∧ n.type = m.type ∧ n.operator = m.operator ∧
        (n.const == m.const) = true ∧ (n.constraints == m.constraints) = true ∧
        sameNames n.required m.required = true) ∧
      List.Forall₂ (fun n m => n.structurallyEq m = true) n.items m.items ∧
      Dict.Matches (fun n m => n.structurallyEq m = true) n.properties m.properties ∧
      Option.Rel (fun n m => n.structurallyEq m = true) n.additional m.additional := by
  cases n
  rw [structurallyEq]
  simp only [Bool.and_eq_true, beq_iff_eq, structurallyEqItems_iff, structurallyEqProperties_iff,
    structurallyEqOption_iff, Dict.Matches]
  tauto

theorem mem_children_of_items {c : Node} (h : c ∈ n.items) : c ∈ n.children :=
  List.mem_append_left _ (List.mem_append_left _ h)

theorem mem_children_of_properties {e : String × Node} (h : e ∈ n.properties) :
    e.2 ∈ n.children :=
  List.mem_append_left _ (List.mem_append_right _ (List.mem_map_of_mem h))

theorem mem_children_of_additional {c : Node} (h : n.additional = some c) : c ∈ n.children :=
  List.mem_append_right _ (Option.mem_toList.2 h)

/-- Structural equality of nodes without repeated names is reflexive. -/
theorem structurallyEq_refl {n : Node} (hn : n.Everywhere Proper) : n.structurallyEq n = true := by
  have hinside : ∀ c ∈ n.children, c.structurallyEq c = true := by
    intro c hc
    have := sizeOf_lt_of_mem_children hc
    exact structurallyEq_refl (hn.child hc)
  rw [structurallyEq_iff]
  refine ⟨⟨rfl, rfl, rfl, ?_, constraints_beq_refl _, sameNames_of_perm (.refl _)⟩, ?_, ?_, ?_⟩
  · cases hc : n.const with
    | none => rfl
    | some v => exact Json.equal_refl v (hn.self.const v hc)
  · exact List.forall₂_same.2 fun c hc => hinside c (mem_children_of_items hc)
  · exact Dict.matches_self hn.self.properties fun e he =>
      hinside _ (mem_children_of_properties he)
  · cases ha : n.additional with
    | none => exact .none
    | some c => exact .some (hinside c (mem_children_of_additional ha))
termination_by sizeOf n

/-- Structural equality is transitive, also where names are repeated. -/
theorem structurallyEq_trans {n m k : Node} (h : n.structurallyEq m = true)
    (h' : m.structurallyEq k = true) : n.structurallyEq k = true := by
  have hinside : ∀ c ∈ n.children, ∀ c' c'', c.structurallyEq c' = true →
      c'.structurallyEq c'' = true → c.structurallyEq c'' = true := by
    intro c hc c' c'' heq heq'
    have := sizeOf_lt_of_mem_children hc
    exact structurallyEq_trans heq heq'
  rw [structurallyEq_iff] at h h' ⊢
  obtain ⟨⟨hreference, htype, hoperator, hconst, hconstraints, hrequired⟩, hitems, hproperties,
    hadditional⟩ := h
  obtain ⟨⟨hreference', htype', hoperator', hconst', hconstraints', hrequired'⟩, hitems',
    hproperties', hadditional'⟩ := h'
  refine ⟨⟨hreference.trans hreference', htype.trans htype', hoperator.trans hoperator', ?_,
    constraints_beq_trans hconstraints hconstraints', sameNames_trans hrequired hrequired'⟩,
    ?_, ?_, ?_⟩
  · exact beq_option_trans (fun x y z => Json.equal_trans x y z) hconst hconst'
  · exact forall₂_trans_of_mem hitems hitems' fun c hc => hinside c (mem_children_of_items hc)
  · exact hproperties.trans hproperties' fun e he => hinside _ (mem_children_of_properties he)
  · cases ha : n.additional <;> cases ha' : m.additional <;> cases ha'' : k.additional <;>
      rw [ha, ha'] at hadditional <;> rw [ha', ha''] at hadditional'
    case none.none.none => exact .none
    case some.some.some =>
      cases hadditional with
      | some heq =>
        cases hadditional' with
        | some heq' => exact .some (hinside _ (mem_children_of_additional ha) _ _ heq heq')
    all_goals contradiction
termination_by sizeOf n

/-- Structural equality of nodes without repeated names is symmetric. -/
theorem structurallyEq_symm {n m : Node} (hn : n.Everywhere Proper) (hm : m.Everywhere Proper)
    (h : n.structurallyEq m = true) : m.structurallyEq n = true := by
  rw [structurallyEq_iff] at h ⊢
  obtain ⟨⟨hreference, htype, hoperator, hconst, hconstraints, hrequired⟩, hitems, hproperties,
    hadditional⟩ := h
  -- The nodes right inside are smaller, and no name is repeated in them either.
  have hinside : ∀ c ∈ n.children, ∀ c' ∈ m.children, c.structurallyEq c' = true →
      c'.structurallyEq c = true := by
    intro c hc c' hc' heq
    have := sizeOf_lt_of_mem_children hc
    exact structurallyEq_symm (hn.child hc) (hm.child hc') heq
  refine ⟨⟨hreference.symm, htype.symm, hoperator.symm, ?_, ?_, ?_⟩, ?_, ?_, ?_⟩
  · cases hc : n.const <;> cases hc' : m.const <;> rw [hc, hc'] at hconst
    · rfl
    · cases hconst
    · cases hconst
    · exact Json.equal_symm _ _ (hn.self.const _ hc) (hm.self.const _ hc') hconst
  · rwa [constraints_beq_comm]
  · exact sameNames_symm hn.self.required hrequired
  · exact forall₂_flip_of_mem hitems fun c hc c' hc' =>
      hinside c (mem_children_of_items hc) c' (mem_children_of_items hc')
  · exact hproperties.flip hn.self.properties hm.self.properties fun e he e' he' =>
      hinside _ (mem_children_of_properties he) _ (mem_children_of_properties he')
  · cases ha : n.additional <;> cases ha' : m.additional <;> rw [ha, ha'] at hadditional
    · exact .none
    · cases hadditional
    · cases hadditional
    · cases hadditional with
      | some heq =>
        exact .some (hinside _ (mem_children_of_additional ha) _ (mem_children_of_additional ha') heq)
termination_by sizeOf n

end Node

end ApiShape
