import ApiShape.Diagnostic
import Mathlib.Data.List.Forall2

/-!
# Reports side by side

Two computations run alongside if they record diagnostics of the same kinds with the same messages, at
related locations, and then both succeed with related results or both fail with related errors. What
is built of such computations in the same way runs alongside as well.
-/

namespace ApiShape

variable {ε α β γ δ : Type}

/-- Both succeed with related values, or both fail with related errors. -/
inductive Both (E : ε → ε → Prop) (R : α → β → Prop) : Except ε α → Except ε β → Prop
  | ok {a b} (h : R a b) : Both E R (.ok a) (.ok b)
  | error {e e'} (h : E e e') : Both E R (.error e) (.error e')

theorem Both.eq {a b : Except ε α} (h : Both Eq Eq a b) : a = b := by
  cases h with
  | ok h => exact congrArg Except.ok h
  | error h => exact congrArg Except.error h

theorem Both.refl {E : ε → ε → Prop} {R : α → α → Prop} (hE : ∀ e, E e e) (hR : ∀ a, R a a)
    (r : Except ε α) : Both E R r r := by
  cases r with
  | ok a => exact .ok (hR a)
  | error e => exact .error (hE e)

theorem eq_ok_of_toOption {a : α} {r : Except ε α} (h : r.toOption = some a) : r = .ok a := by
  cases r with
  | error e => cases h
  | ok b => exact congrArg Except.ok (Option.some.inj h)

/-- What comes of both is related, if errors need not be. -/
theorem both_of_rel {R : α → β → Prop} {a : Except ε α} {b : Except ε β}
    (h : Option.Rel R a.toOption b.toOption) : Both (fun _ _ => True) R a b := by
  cases a with
  | ok a =>
    cases b with
    | ok b =>
      cases h with
      | some h => exact .ok h
    | error e => cases h
  | error e =>
    cases b with
    | ok b => cases h
    | error e' => exact .error trivial

/-- The diagnostics say the same about related locations. -/
structure Diagnostic.Alongside (L : String → String → Prop) (x y : Diagnostic) : Prop where
  kind : x.kind = y.kind
  message : x.message = y.message
  location : L x.location y.location

theorem Diagnostic.Alongside.eq {x y : Diagnostic} (h : x.Alongside Eq y) : x = y := by
  obtain ⟨kind, message, location⟩ := x
  obtain ⟨rfl, rfl, rfl⟩ := h
  rfl

/-- The two computations record the same about related locations and end alike. -/
structure Report.Alongside (L : String → String → Prop) (E : ε → ε → Prop) (R : α → β → Prop)
    (r : Report ε α) (r' : Report ε β) : Prop where
  diagnostics : List.Forall₂ (Diagnostic.Alongside L) r.diagnostics r'.diagnostics
  result : Both E R r.result r'.result

namespace Report.Alongside

variable {L : String → String → Prop} {E : ε → ε → Prop} {R : α → β → Prop} {S : γ → δ → Prop}
  {r : Report ε α} {r' : Report ε β}

theorem pure {a : α} {b : β} (h : R a b) :
    (Pure.pure a : Report ε α).Alongside L E R (Pure.pure b) :=
  ⟨.nil, .ok h⟩

theorem fail {e e' : ε} (h : E e e') : (fail e : Report ε α).Alongside L E R (Report.fail e') :=
  ⟨.nil, .error h⟩

theorem ofExcept {a : Except ε α} {b : Except ε β} (h : Both E R a b) :
    (ofExcept a).Alongside L E R (Report.ofExcept b) :=
  ⟨.nil, h⟩

theorem record {kind : DiagnosticKind} {location location' message : String}
    (h : L location location') :
    (record kind location message : Report ε Unit).Alongside L E Eq
      (Report.record kind location' message) :=
  ⟨.cons ⟨rfl, rfl, h⟩ .nil, .ok rfl⟩

theorem bind {f : α → Report ε γ} {f' : β → Report ε δ} (h : r.Alongside L E R r')
    (hf : ∀ a b, R a b → (f a).Alongside L E S (f' b)) :
    (r >>= f).Alongside L E S (r' >>= f') := by
  change (Report.bind r f).Alongside L E S (Report.bind r' f')
  obtain ⟨hdiagnostics, hresult⟩ := h
  unfold Report.bind
  generalize r.result = result at hresult
  generalize r'.result = result' at hresult
  cases hresult with
  | error he => exact ⟨hdiagnostics, .error he⟩
  | ok hab =>
    -- What comes next is recorded after what came before.
    have hnext := hf _ _ hab
    exact ⟨List.rel_append hdiagnostics hnext.diagnostics, hnext.result⟩

theorem map {f : α → γ} {f' : β → δ} (h : r.Alongside L E R r')
    (hf : ∀ a b, R a b → S (f a) (f' b)) : (f <$> r).Alongside L E S (f' <$> r') :=
  h.bind fun a b hab => pure (hf a b hab)

theorem imp {R' : α → β → Prop} (h : r.Alongside L E R r') (hR : ∀ a b, R a b → R' a b) :
    r.Alongside L E R' r' := by
  obtain ⟨hdiagnostics, hresult⟩ := h
  refine ⟨hdiagnostics, ?_⟩
  generalize r.result = result at hresult ⊢
  generalize r'.result = result' at hresult ⊢
  cases hresult with
  | ok hab => exact .ok (hR _ _ hab)
  | error he => exact .error he

/-- Lists are gone through alongside if each step runs alongside its counterpart. -/
theorem traverse {f : α → Report ε γ} {f' : β → Report ε δ} {as : List α} {bs : List β}
    (h : List.Forall₂ (fun a b => (f a).Alongside L E S (f' b)) as bs) :
    (traverse f as).Alongside L E (List.Forall₂ S) (Report.traverse f' bs) := by
  induction h with
  | nil => exact pure .nil
  | cons hab _ ih =>
    rw [Report.traverse, Report.traverse]
    refine hab.bind fun c d hcd => ih.bind fun cs ds hcds => ?_
    exact pure (.cons hcd hcds)

/-- What is related are the results that the computations end in. -/
theorem and_result (h : r.Alongside L E R r') :
    r.Alongside L E (fun a b => R a b ∧ r.result = .ok a ∧ r'.result = .ok b) r' := by
  obtain ⟨hdiagnostics, hresult⟩ := h
  refine ⟨hdiagnostics, ?_⟩
  generalize r.result = result at hresult ⊢
  generalize r'.result = result' at hresult ⊢
  cases hresult with
  | ok hab => exact .ok ⟨hab, rfl, rfl⟩
  | error he => exact .error he

theorem bind_eq {f : α → Report ε γ} {f' : α → Report ε δ} {r r' : Report ε α}
    (h : r.Alongside L E Eq r') (hf : ∀ a, (f a).Alongside L E S (f' a)) :
    (r >>= f).Alongside L E S (r' >>= f') := by
  refine h.bind ?_
  rintro a _ rfl
  exact hf a

theorem traverse_eq {f : α → Report ε γ} {f' : β → Report ε γ} {as : List α} {bs : List β}
    (h : List.Forall₂ (fun a b => (f a).Alongside L E Eq (f' b)) as bs) :
    (Report.traverse f as).Alongside L E Eq (Report.traverse f' bs) :=
  (traverse h).imp fun _ _ hall => by rwa [List.forall₂_eq_eq_eq] at hall

/-- A success on one side is a success on the other. -/
theorem exists_ok {a : α} (h : r.Alongside L E R r') (ha : r.result = .ok a) :
    ∃ b, r'.result = .ok b ∧ R a b := by
  obtain ⟨-, hresult⟩ := h
  rw [ha] at hresult
  generalize r'.result = result' at hresult ⊢
  cases hresult with
  | @ok _ b hab => exact ⟨b, rfl, hab⟩

end Report.Alongside

/-! ## Lists and options side by side -/

variable {R : α → β → Prop}

/-- The positions of elements that correspond are the same. -/
theorem forall₂_zipIdx {as : List α} {bs : List β} (h : List.Forall₂ R as bs) (k : Nat) :
    List.Forall₂ (fun x y => R x.1 y.1 ∧ x.2 = y.2) (as.zipIdx k) (bs.zipIdx k) := by
  induction h generalizing k with
  | nil => exact .nil
  | cons hab _ ih => exact .cons ⟨hab, rfl⟩ (ih (k + 1))

theorem forall₂_imp_of_mem {S : α → β → Prop} {as : List α} {bs : List β} (h : List.Forall₂ R as bs)
    (hS : ∀ a ∈ as, ∀ b ∈ bs, R a b → S a b) : List.Forall₂ S as bs := by
  induction h with
  | nil => exact .nil
  | cons hab _ ih =>
    refine .cons (hS _ List.mem_cons_self _ List.mem_cons_self hab) (ih fun a ha b hb => ?_)
    exact hS a (List.mem_cons_of_mem _ ha) b (List.mem_cons_of_mem _ hb)

/-- Elements that correspond are at the same position. -/
theorem forall₂_position {as : List α} {bs : List β} (h : List.Forall₂ R as bs) :
    List.Forall₂ (fun a b => R a b ∧ ∃ i : Nat, as[i]? = some a ∧ bs[i]? = some b) as bs := by
  rw [List.forall₂_iff_get] at h ⊢
  refine ⟨h.1, fun i hi hi' => ⟨h.2 i hi hi', i, ?_, ?_⟩⟩
  · exact List.getElem?_eq_getElem hi
  · exact List.getElem?_eq_getElem hi'

theorem forall₂_getD {as : Option (List α)} {bs : Option (List β)}
    (h : Option.Rel (List.Forall₂ R) as bs) : List.Forall₂ R (as.getD []) (bs.getD []) := by
  cases h with
  | some h => exact h
  | none => exact .nil

theorem forall₂_toList {a : Option α} {b : Option β} (h : Option.Rel R a b) :
    List.Forall₂ R a.toList b.toList := by
  cases h with
  | some h => exact .cons h .nil
  | none => exact .nil

theorem forall₂_replicate {a : α} {b : β} (h : R a b) (k : Nat) :
    List.Forall₂ R (List.replicate k a) (List.replicate k b) := by
  induction k with
  | zero => exact .nil
  | succ k ih => exact .cons h ih

/-- The first that gives something is at the same position. -/
theorem rel_findSome? {S : γ → δ → Prop} {f : α → Option γ} {f' : β → Option δ} {as : List α}
    {bs : List β} (h : List.Forall₂ R as bs) (hf : ∀ a b, R a b → Option.Rel S (f a) (f' b)) :
    Option.Rel S (as.findSome? f) (bs.findSome? f') := by
  induction h with
  | nil => exact .none
  | @cons a b _ _ hab _ ih =>
    have hfirst := hf a b hab
    rw [List.findSome?_cons, List.findSome?_cons]
    generalize f a = first at hfirst ⊢
    generalize f' b = first' at hfirst ⊢
    cases hfirst with
    | some h => exact .some h
    | none => exact ih

/-- A list corresponds to what becomes of its elements if they do. -/
theorem forall₂_map {f : α → β} {as : List α} (h : ∀ a ∈ as, R a (f a)) :
    List.Forall₂ R as (as.map f) :=
  List.forall₂_map_right_iff.2 (List.forall₂_same.2 h)

theorem rel_map {f : α → β} {a : Option α} (h : ∀ x ∈ a, R x (f x)) : Option.Rel R a (a.map f) := by
  cases a with
  | none => exact .none
  | some a => exact .some (h a rfl)

theorem map_eq_map_iff {α β : Type} {f : α → β} {as bs : List α} :
    as.map f = bs.map f ↔ List.Forall₂ (fun a b => f a = f b) as bs := by
  rw [← List.forall₂_eq_eq_eq, List.forall₂_map_left_iff, List.forall₂_map_right_iff]

theorem rel_of_map_eq {α β : Type} {f : α → β} {a b : Option α} (h : a.map f = b.map f) :
    Option.Rel (fun a b => f a = f b) a b := by
  cases a <;> cases b
  · exact .none
  · cases h
  · cases h
  · exact .some (Option.some.inj h)

theorem rel_imp {α β : Type} {R S : α → β → Prop} (hRS : ∀ a b, R a b → S a b) {a : Option α}
    {b : Option β} (h : Option.Rel R a b) : Option.Rel S a b := by
  cases h with
  | none => exact .none
  | some h => exact .some (hRS _ _ h)

theorem any_eq_of_forall₂ {f : α → Bool} {f' : β → Bool} {as : List α} {bs : List β}
    (h : List.Forall₂ R as bs) (hf : ∀ a b, R a b → f a = f' b) : as.any f = bs.any f' := by
  induction h with
  | nil => rfl
  | cons hab _ ih => rw [List.any_cons, List.any_cons, hf _ _ hab, ih]

theorem map_eq_of_forall₂ {f : α → γ} {f' : β → γ} {as : List α} {bs : List β}
    (h : List.Forall₂ R as bs) (hf : ∀ a b, R a b → f a = f' b) : as.map f = bs.map f' := by
  induction h with
  | nil => rfl
  | cons hab _ ih => rw [List.map_cons, List.map_cons, hf _ _ hab, ih]

theorem flatMap_eq_of_forall₂ {f : α → List γ} {f' : β → List γ} {as : List α} {bs : List β}
    (h : List.Forall₂ R as bs) (hf : ∀ a b, R a b → f a = f' b) : as.flatMap f = bs.flatMap f' := by
  rw [List.flatMap_def, List.flatMap_def, map_eq_of_forall₂ h hf]

/-- Of lists that correspond, the elements correspond for which something holds. -/
theorem forall₂_filter {f : α → Bool} {f' : β → Bool} {as : List α} {bs : List β}
    (h : List.Forall₂ R as bs) (hf : ∀ a b, R a b → f a = f' b) :
    List.Forall₂ R (as.filter f) (bs.filter f') := by
  induction h with
  | nil => exact .nil
  | @cons a b _ _ hab _ ih =>
    rw [List.filter_cons, List.filter_cons, hf a b hab]
    split
    · exact .cons hab ih
    · exact ih

theorem rel_getLast? {as : List α} {bs : List β} (h : List.Forall₂ R as bs) :
    Option.Rel R as.getLast? bs.getLast? := by
  rw [List.getLast?_eq_head?_reverse, List.getLast?_eq_head?_reverse]
  have hreverse := List.forall₂_reverse_iff.2 h
  generalize as.reverse = as at hreverse ⊢
  generalize bs.reverse = bs at hreverse ⊢
  cases hreverse with
  | nil => exact .none
  | cons hab _ => exact .some hab

theorem isSome_eq_of_rel {a : Option α} {b : Option β} (h : Option.Rel R a b) :
    a.isSome = b.isSome := by
  cases h <;> rfl

theorem isEmpty_eq_of_forall₂ {as : List α} {bs : List β} (h : List.Forall₂ R as bs) :
    as.isEmpty = bs.isEmpty := by
  cases h <;> rfl

end ApiShape
