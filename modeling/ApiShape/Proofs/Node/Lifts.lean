import ApiShape.Proofs.Node.StructuralEquality
import Mathlib.Data.List.Induction

/-!
# The normal form of compositions, and what they mean

Simplification lifts single survivors until it comes to a composition with more of them, to a node that
is no composition, or to nothing that says anything. What it leaves is not simplified further. As long
as every item of a union says something, the node means what it has meant before.
-/

namespace ApiShape

namespace Node

variable {operator : Operator} {items kept : List Node} {n m k : Node} {docs : Docs}

/-! ## Items that are kept -/

/-- What is kept of items, read in order: those that say something and are structurally equal to none
that is kept already. -/
inductive Keeps (operator : Operator) : (items kept : List Node) → Prop
  | nil : Keeps operator [] []
  | keep {items kept : List Node} {n : Node} (h : Keeps operator items kept)
      (hn : isDroppable operator n = false) (hnew : ∀ m ∈ kept, m.structurallyEq n = false) :
      Keeps operator (items ++ [n]) (kept ++ [n])
  | drop {items kept : List Node} {n : Node} (h : Keeps operator items kept)
      (hn : isDroppable operator n = true) : Keeps operator (items ++ [n]) kept
  | fold {items kept : List Node} {n m : Node} (h : Keeps operator items kept)
      (hm : m ∈ kept) (heq : m.structurallyEq n = true) : Keeps operator (items ++ [n]) kept

theorem distinctFrom_concat (kept items : List Node) (n : Node) :
    distinctFrom kept (items ++ [n]) = distinctFrom kept items ++
      if (kept ++ distinctFrom kept items).any (·.structurallyEq n) then [] else [n] := by
  induction items generalizing kept with
  | nil => simp only [List.nil_append, distinctFrom, List.append_nil]
  | cons m rest ih =>
    rw [List.cons_append, distinctFrom, distinctFrom]
    split
    · exact ih kept
    · -- A node that is kept counts among those kept before, wherever it stands.
      have hany : ((m :: kept) ++ distinctFrom (m :: kept) rest).any (·.structurallyEq n) =
          (kept ++ m :: distinctFrom (m :: kept) rest).any (·.structurallyEq n) := by
        simp only [List.cons_append, List.any_cons, List.any_append]
        exact Bool.or_left_comm ..
      rw [ih (m :: kept), hany, List.cons_append]

/-- One more item survives if it says something and is structurally equal to no survivor. -/
theorem survivors_concat (operator : Operator) (items : List Node) (n : Node) :
    survivors operator (items ++ [n]) = survivors operator items ++
      if isDroppable operator n || (survivors operator items).any (·.structurallyEq n) then []
      else [n] := by
  unfold survivors
  rw [List.filter_append, List.filter_cons, List.filter_nil]
  cases isDroppable operator n with
  | true => simp
  | false =>
    rw [Bool.not_false, if_pos rfl, distinctFrom_concat, List.nil_append, Bool.false_or]

theorem keeps_survivors (operator : Operator) (items : List Node) :
    Keeps operator items (survivors operator items) := by
  induction items using List.reverseRecOn with
  | nil => exact .nil
  | append_singleton items n ih =>
    rw [survivors_concat]
    split
    · rename_i hout
      rw [List.append_nil]
      rcases Bool.or_eq_true_iff.1 hout with hn | hold
      · exact ih.drop hn
      · obtain ⟨m, hm, heq⟩ := List.any_eq_true.1 hold
        exact ih.fold hm heq
    · rename_i hin
      rw [Bool.or_eq_true, not_or, Bool.not_eq_true, List.any_eq_true] at hin
      exact ih.keep hin.1 fun m hm => Bool.eq_false_iff.2 fun heq => hin.2 ⟨m, hm, heq⟩

/-- The survivors are all that can be kept. -/
theorem keeps_iff : Keeps operator items kept ↔ kept = survivors operator items := by
  refine ⟨fun h => ?_, fun h => h ▸ keeps_survivors operator items⟩
  induction h with
  | nil => rfl
  | keep _ hn hnew ih =>
    subst ih
    rw [survivors_concat, if_neg]
    rw [hn, Bool.false_or, List.any_eq_true]
    rintro ⟨m, hm, heq⟩
    rw [hnew m hm] at heq
    cases heq
  | drop _ hn ih => rw [survivors_concat, hn, Bool.true_or, if_pos rfl, List.append_nil, ih]
  | fold _ hm heq ih =>
    subst ih
    rw [survivors_concat, if_pos, List.append_nil]
    rw [Bool.or_eq_true]
    exact .inr (List.any_eq_true.2 ⟨_, hm, heq⟩)

theorem Keeps.subset (h : Keeps operator items kept) : kept ⊆ items := by
  rw [keeps_iff.1 h]
  exact (sublist_survivors operator items).subset

/-! ## Lifting -/

/-- From a composition of which a single item is kept one comes to this item, and so on. -/
inductive Lifts : Node → Node → Prop
  | refl (n : Node) : Lifts n n
  | lift {n m k : Node} {operator : Operator} (ho : n.operator = some operator)
      (hm : Keeps operator n.items [m]) (h : Lifts m k) : Lifts n k

/-- A composition that is left has the kept items of one that simplification has come to. -/
theorem exists_lifts (docs : Docs) (n : Node) (h : (dedupeAs docs n).operator = some operator) :
    Simplified operator (dedupeAs docs n).items ∧
      ∃ k docs', Lifts n k ∧ k.operator = some operator ∧
        Keeps operator k.items (dedupeAs docs n).items ∧
        dedupeAs docs n = { k with items := (dedupeAs docs n).items, docs := docs' } := by
  revert h
  refine dedupeAs_induction
    (motive := fun _ n simple => simple.operator = some operator →
      Simplified operator simple.items ∧
        ∃ k docs', Lifts n k ∧ k.operator = some operator ∧ Keeps operator k.items simple.items ∧
          simple = { k with items := simple.items, docs := docs' }) ?_ ?_ ?_ ?_ docs n
  · intro docs n hleaf h
    rw [hleaf] at h
    cases h
  · intro docs n _ _ _ _ h
    cases h
  · intro docs n operator' m ho hs _ ih h
    obtain ⟨hsimplified, k, docs', hk, hrest⟩ := ih h
    exact ⟨hsimplified, k, docs', .lift ho (keeps_iff.2 hs.symm) hk, hrest⟩
  · intro docs n operator' ho htwo h
    cases ho.symm.trans h
    exact ⟨simplified_survivors htwo, n, docs, .refl n, ho, keeps_survivors operator n.items, rfl⟩

theorem dedupe_of_operator_eq_none (h : n.operator = none) : dedupe n = n := by
  rw [dedupe, dedupeAs_of_operator_eq_none h]
  cases n
  rfl

theorem dedupe_of_simplified (ho : n.operator = some operator) (h : Simplified operator n.items) :
    dedupe n = n := by
  rw [dedupe, dedupeAs_of_simplified ho h]
  cases n
  rfl

/-- What is simplified already stays as it is. -/
theorem dedupe_dedupe (n : Node) : dedupe (dedupe n) = dedupe n := by
  cases ho : (dedupe n).operator with
  | none => exact dedupe_of_operator_eq_none ho
  | some operator => exact dedupe_of_simplified ho (exists_lifts n.docs n ho).1

theorem Lifts.everywhere {Q : Node → Prop} (h : Lifts n k) (hn : n.Everywhere Q) :
    k.Everywhere Q := by
  induction h with
  | refl => exact hn
  | lift _ hm _ ih => exact ih (hn.item (hm.subset (List.mem_singleton_self _)))

/-- Simplifying twice is simplifying once, and a node that is no composition stays as it is. A
composition that is left has two items or more, of which each says something and no two are structurally
equal. They are the kept items of the node, or of the composition that lifting single items leads to,
and nothing else of this composition has changed but its documentation. -/
theorem dedupe_normalForm (n : Node) (hn : n.Everywhere Proper) :
    dedupe (dedupe n) = dedupe n ∧ (n.operator = none → dedupe n = n) ∧
      ∀ operator, (dedupe n).operator = some operator →
        2 ≤ (dedupe n).items.length ∧
        (∀ m ∈ (dedupe n).items, m.isEmpty = false ∧
          (operator = .and → m.isBareUnknown = false)) ∧
        ((dedupe n).items.Pairwise fun a b =>
          a.structurallyEq b = false ∧ b.structurallyEq a = false) ∧
        ∃ k docs, Lifts n k ∧ k.operator = some operator ∧
          Keeps operator k.items (dedupe n).items ∧
          dedupe n = { k with items := (dedupe n).items, docs } := by
  refine ⟨dedupe_dedupe n, dedupe_of_operator_eq_none, fun operator ho => ?_⟩
  obtain ⟨hsimplified, k, docs, hk, hoperator, hkept, hsame⟩ := exists_lifts n.docs n ho
  refine ⟨hsimplified.two_le_length, fun m hm => ?_, ?_, k, docs, hk, hoperator, hkept, hsame⟩
  · have hd := hsimplified.not_isDroppable m hm
    unfold isDroppable at hd
    obtain ⟨hempty, hunknown⟩ := Bool.or_eq_false_iff.1 hd
    refine ⟨hempty, fun hand => ?_⟩
    rwa [hand, beq_self_eq_true, Bool.true_and] at hunknown
  · -- The items lie in the node, where no name is repeated, so their order does not matter.
    have hproper : ∀ m ∈ (dedupe n).items, m.Everywhere Proper := fun m hm =>
      (hk.everywhere hn).item (hkept.subset hm)
    refine hsimplified.pairwise.imp_of_mem fun ha hb hab => ⟨hab, ?_⟩
    rw [Bool.eq_false_iff] at hab ⊢
    exact fun hba => hab (structurallyEq_symm (hproper _ hb) (hproper _ ha) hba)

/-- A union of a single intersection, which repeats one of its types and holds the unknown type. -/
def shoal : Node :=
  composition .or [empty, composition .and [ofType .string, ofType .unknown,
    { ofType .string with docs := { title := some "fish" } }, ofType .number]]

theorem dedupe_normalForm_shoal : shoal.Everywhere Proper ∧
    (dedupe shoal).operator = some .and ∧
    dedupe (dedupe shoal) = dedupe shoal ∧ 2 ≤ (dedupe shoal).items.length ∧
    (∀ m ∈ (dedupe shoal).items, m.isEmpty = false ∧ m.isBareUnknown = false) ∧
    ((dedupe shoal).items.Pairwise fun a b =>
      a.structurallyEq b = false ∧ b.structurallyEq a = false) ∧
    ∃ k docs, Lifts shoal k ∧ k.operator = some .and ∧ Keeps .and k.items (dedupe shoal).items ∧
      dedupe shoal = { k with items := (dedupe shoal).items, docs } := by
  have hproper : shoal.Everywhere Proper := by decide +kernel
  have ho : (dedupe shoal).operator = some .and := by decide +kernel
  obtain ⟨htwice, -, hcomposition⟩ := dedupe_normalForm shoal hproper
  obtain ⟨hlength, hitems, hpairwise, hlifts⟩ := hcomposition .and ho
  exact ⟨hproper, ho, htwice, hlength, fun m hm => ⟨(hitems m hm).1, (hitems m hm).2 rfl⟩,
    hpairwise, hlifts⟩

/-! ## What a node means -/

end Node

/-- The values that nodes accept: compositions combine what their items accept, what says nothing
accepts everything, and documentation makes no difference. Structurally equal nodes accept the same, as
long as no name is repeated in them. -/
structure Meaning (V : Type) where
  accepts : Node → V → Prop
  structural : ∀ n m v, n.Everywhere Node.Proper → m.Everywhere Node.Proper →
    n.structurallyEq m = true → (accepts n v ↔ accepts m v)
  documentation : ∀ n docs v, accepts { n with docs } v ↔ accepts n v
  empty : ∀ n v, n.isEmpty = true → accepts n v
  unknown : ∀ n v, n.isBareUnknown = true → accepts n v
  intersection : ∀ n v, n.operator = some .and → (accepts n v ↔ ∀ m ∈ n.items, accepts m v)
  union : ∀ n v, n.operator = some .or → (accepts n v ↔ ∃ m ∈ n.items, accepts m v)

/-- An interpretation takes structural equality at its word for all nodes. -/
def Interpretation.meaning {V : Type} (I : Interpretation V) : Meaning V :=
  { I with structural := fun n m v _ _ h => I.structural n m v h }

namespace Node

variable {V : Type} {M : Meaning V} {v : V} {operator : Operator} {n m : Node} {items : List Node}

/-- An item that says something has a survivor that accepts the same. -/
theorem exists_survivor_iff (hproper : ∀ m ∈ items, m.Everywhere Proper) (M : Meaning V) (v : V)
    (hm : m ∈ items) (hd : isDroppable operator m = false) :
    ∃ k ∈ survivors operator items, M.accepts k v ↔ M.accepts m v := by
  rcases exists_mem_survivors hm hd with hk | ⟨k, hk, heq⟩
  · exact ⟨m, hk, Iff.rfl⟩
  · have hitem := (sublist_survivors operator items).subset hk
    exact ⟨k, hk, M.structural k m v (hproper k hitem) (hproper m hm) heq⟩

/-- Dropped items of an intersection accept everything. -/
theorem forall_accepts_survivors_iff (hproper : ∀ m ∈ items, m.Everywhere Proper) :
    (∀ k ∈ survivors .and items, M.accepts k v) ↔ ∀ m ∈ items, M.accepts m v := by
  refine ⟨fun h m hm => ?_, fun h k hk => h k ((sublist_survivors .and items).subset hk)⟩
  cases hd : isDroppable .and m with
  | true =>
    rcases Bool.or_eq_true_iff.1 hd with hempty | hunknown
    · exact M.empty m v hempty
    · exact M.unknown m v hunknown
  | false =>
    obtain ⟨k, hk, hsame⟩ := exists_survivor_iff hproper M v hm hd
    exact hsame.1 (h k hk)

theorem isDroppable_or_of_isEmpty (h : m.isEmpty = false) : isDroppable .or m = false := by
  unfold isDroppable
  rw [h]
  rfl

/-- Nothing is dropped from a union whose items all say something. -/
theorem exists_accepts_survivors_iff (hproper : ∀ m ∈ items, m.Everywhere Proper)
    (hitems : ∀ m ∈ items, m.isEmpty = false) :
    (∃ k ∈ survivors .or items, M.accepts k v) ↔ ∃ m ∈ items, M.accepts m v := by
  constructor
  · rintro ⟨k, hk, h⟩
    exact ⟨k, (sublist_survivors .or items).subset hk, h⟩
  · rintro ⟨m, hm, h⟩
    obtain ⟨k, hk, hsame⟩ :=
      exists_survivor_iff hproper M v hm (isDroppable_or_of_isEmpty (hitems m hm))
    exact ⟨k, hk, hsame.2 h⟩

/-- A composition accepts what its survivors accept in its place, if an item of a union says
something. -/
theorem accepts_survivors_iff (hn : n.Everywhere Proper) (ho : n.operator = some operator)
    (hunion : operator = .or → ∀ m ∈ n.items, m.isEmpty = false) {simple : Node}
    (hsimple : simple.operator = some operator)
    (hsurvivors : simple.items = survivors operator n.items) :
    M.accepts simple v ↔ M.accepts n v := by
  have hproper : ∀ m ∈ n.items, m.Everywhere Proper := fun m hm => hn.item hm
  cases operator with
  | and =>
    rw [M.intersection simple v hsimple, M.intersection n v ho, hsurvivors]
    exact forall_accepts_survivors_iff hproper
  | or =>
    rw [M.union simple v hsimple, M.union n v ho, hsurvivors]
    exact exists_accepts_survivors_iff hproper (hunion rfl)

/-- As long as every union that simplification comes to has an item, and only items that say something,
the simplified node accepts the values that the node accepts. -/
theorem accepts_dedupe_iff (M : Meaning V) (v : V) (n : Node) (hn : n.Everywhere Proper)
    (hunions : ∀ k, Lifts n k → k.operator = some .or →
      k.items ≠ [] ∧ ∀ m ∈ k.items, m.isEmpty = false) :
    M.accepts (dedupe n) v ↔ M.accepts n v := by
  revert hn hunions
  refine dedupeAs_induction
    (motive := fun _ n simple => n.Everywhere Proper →
      (∀ k, Lifts n k → k.operator = some .or →
        k.items ≠ [] ∧ ∀ m ∈ k.items, m.isEmpty = false) →
      (M.accepts simple v ↔ M.accepts n v)) ?_ ?_ ?_ ?_ n.docs n
  · intro docs n _ _ _
    exact M.documentation n docs v
  · intro docs n operator ho hblank _ hn hunions
    -- What survives is of unknown type, so both sides accept everything.
    refine iff_of_true (M.empty empty v rfl) ?_
    have hproper : ∀ m ∈ n.items, m.Everywhere Proper := fun m hm => hn.item hm
    cases operator with
    | and =>
      refine (M.intersection n v ho).2 ((forall_accepts_survivors_iff hproper).1 fun k hk => ?_)
      exact M.unknown k v (hblank k hk)
    | or =>
      obtain ⟨hne, hitems⟩ := hunions n (.refl n) ho
      obtain ⟨m, hm⟩ := List.exists_mem_of_ne_nil _ hne
      obtain ⟨k, hk, hsame⟩ :=
        exists_survivor_iff hproper M v hm (isDroppable_or_of_isEmpty (hitems m hm))
      exact (M.union n v ho).2 ⟨m, hm, hsame.1 (M.unknown k v (hblank k hk))⟩
  · intro docs n operator m ho hs _ ih hn hunions
    have hkept : Keeps operator n.items [m] := keeps_iff.2 hs.symm
    have hm : m ∈ n.items := hkept.subset (List.mem_singleton_self m)
    rw [ih (hn.item hm) fun k hk => hunions k (.lift ho hkept hk)]
    -- The single survivor accepts what a composition of it accepts.
    have hsame : M.accepts (composition operator [m]) v ↔ M.accepts n v :=
      accepts_survivors_iff hn ho (fun hor => (hunions n (.refl n) (hor ▸ ho)).2) rfl hs.symm
    rw [← hsame]
    cases operator with
    | and =>
      rw [M.intersection (composition .and [m]) v rfl]
      exact (List.forall_mem_singleton (p := fun k => M.accepts k v)).symm
    | or =>
      rw [M.union (composition .or [m]) v rfl]
      exact ⟨fun h => ⟨m, List.mem_singleton_self m, h⟩,
        fun ⟨k, hk, h⟩ => List.mem_singleton.1 hk ▸ h⟩
  · intro docs n operator ho _ hn hunions
    exact accepts_survivors_iff hn ho (fun hor => (hunions n (.refl n) (hor ▸ ho)).2) ho rfl

/-- An intersection of the unknown type and a union, which repeats one of its types. -/
def reef : Node :=
  composition .and [ofType .unknown, composition .or [ofType .string,
    { ofType .string with docs := { title := some "coral" } }, ofType .number]]

theorem accepts_dedupe_iff_reef : reef.Everywhere Proper ∧
    (∀ k, Lifts reef k → k.operator = some .or →
      k.items ≠ [] ∧ ∀ m ∈ k.items, m.isEmpty = false) ∧
    (dedupe reef).operator = some .or ∧
    ((Interpretation.least Unit).meaning.accepts (dedupe reef) () ↔
      (Interpretation.least Unit).meaning.accepts reef ()) := by
  have hproper : reef.Everywhere Proper := by decide +kernel
  have hnested : ∀ k ∈ reef.nested, k.operator = some .or →
      k.items ≠ [] ∧ ∀ m ∈ k.items, m.isEmpty = false := by decide +kernel
  have hunions := fun k (hk : Lifts reef k) => (hk.everywhere hnested).self
  exact ⟨hproper, hunions, by decide +kernel, accepts_dedupe_iff _ () reef hproper hunions⟩

end Node

end ApiShape
