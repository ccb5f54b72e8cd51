import ApiShape.Diagnostic
import Mathlib.Data.List.Forall2

/-!
# Successful reports

What a computation went through when it gave a result. A sequence of steps succeeds exactly if every
step does, so a result determines the results of the parts.
-/

namespace ApiShape

variable {ε α β : Type}

/-! ## Lists that correspond one to one -/

theorem exists_left_of_forall₂ {R : α → β → Prop} {as : List α} {bs : List β}
    (h : List.Forall₂ R as bs) {b : β} (hb : b ∈ bs) : ∃ a ∈ as, R a b := by
  induction h with
  | nil => cases hb
  | cons hab _ ih =>
    rcases List.mem_cons.1 hb with rfl | hb
    · exact ⟨_, List.mem_cons_self, hab⟩
    · obtain ⟨a, ha, hR⟩ := ih hb
      exact ⟨a, List.mem_cons_of_mem _ ha, hR⟩

theorem exists_right_of_forall₂ {R : α → β → Prop} {as : List α} {bs : List β}
    (h : List.Forall₂ R as bs) {a : α} (ha : a ∈ as) : ∃ b ∈ bs, R a b :=
  exists_left_of_forall₂ (R := fun b a => R a b) h.flip ha

/-- What passes a filter corresponds to what comes of it, if just that gives anything. -/
theorem forall₂_filter_filterMap {R : α → β → Prop} {p : α → Bool} {f : α → Option β}
    (hp : ∀ a, (f a).isSome = p a) (hR : ∀ a b, f a = some b → R a b) (as : List α) :
    List.Forall₂ R (as.filter p) (as.filterMap f) := by
  induction as with
  | nil => exact .nil
  | cons a rest ih =>
    rw [List.filter_cons, List.filterMap_cons, ← hp a]
    cases ha : f a with
    | none => exact ih
    | some b => exact .cons (hR a b ha) ih

namespace Report

/-! ## Sequences of steps -/

theorem pure_eq_ok {a b : α} : (pure a : Report ε α).result = .ok b ↔ a = b := by
  change (Except.ok a : Except ε α) = .ok b ↔ a = b
  exact ⟨fun h => Except.ok.inj h, fun h => congrArg _ h⟩

theorem fail_ne_ok {e : ε} {a : α} : (fail e : Report ε α).result ≠ .ok a := by
  intro h
  cases h

theorem bind_eq_ok {r : Report ε α} {f : α → Report ε β} {b : β} :
    (r >>= f).result = .ok b ↔ ∃ a, r.result = .ok a ∧ (f a).result = .ok b := by
  change (Report.bind r f).result = .ok b ↔ _
  unfold Report.bind
  cases hr : r.result with
  | error e =>
    simp only [reduceCtorEq, false_and, exists_false]
  | ok a =>
    simp only [Except.ok.injEq, exists_eq_left']

theorem map_eq_ok {r : Report ε α} {f : α → β} {b : β} :
    (f <$> r).result = .ok b ↔ ∃ a, r.result = .ok a ∧ f a = b := by
  change (r >>= fun a => pure (f a)).result = .ok b ↔ _
  rw [bind_eq_ok]
  simp only [pure_eq_ok]

theorem record_bind_eq_ok {kind : DiagnosticKind} {location message : String} {r : Report ε α}
    {a : α} :
    ((record kind location message : Report ε Unit) >>= fun _ => r).result = .ok a ↔
      r.result = .ok a := by
  rw [bind_eq_ok]
  exact ⟨fun ⟨_, _, h⟩ => h, fun h => ⟨(), rfl, h⟩⟩

/-- A traversal succeeds with the results of its steps, one for each element. -/
theorem traverse_eq_ok {f : α → Report ε β} {as : List α} {bs : List β} :
    (traverse f as).result = .ok bs ↔ List.Forall₂ (fun a b => (f a).result = .ok b) as bs := by
  induction as generalizing bs with
  | nil =>
    rw [traverse, pure_eq_ok, List.forall₂_nil_left_iff]
    exact eq_comm
  | cons a rest ih =>
    -- The first step succeeds, and so do the others after it.
    rw [traverse, bind_eq_ok, List.forall₂_cons_left_iff]
    simp only [bind_eq_ok, pure_eq_ok, ih]
    constructor
    · rintro ⟨b, hb, bs', hbs, rfl⟩
      exact ⟨b, bs', hb, hbs, rfl⟩
    · rintro ⟨b, bs', hb, hbs, rfl⟩
      exact ⟨b, hb, bs', hbs, rfl⟩

/-- If every step succeeds, the traversal does, with the diagnostics of all the steps. -/
theorem traverse_eq_of_forall {f : α → Report ε β} {diagnostics : α → List Diagnostic} {g : α → β}
    (h : ∀ a, f a = ⟨diagnostics a, .ok (g a)⟩) (as : List α) :
    traverse f as = ⟨as.flatMap diagnostics, .ok (as.map g)⟩ := by
  induction as with
  | nil => rfl
  | cons a rest ih =>
    have hrest : ∀ b : β, (traverse f rest >>= fun bs => pure (b :: bs)) =
        (⟨rest.flatMap diagnostics, .ok (b :: rest.map g)⟩ : Report ε (List β)) := by
      intro b
      rw [ih]
      exact congrArg (Report.mk · _) (List.append_nil _)
    rw [traverse, h a]
    show Report.bind _ _ = _
    simp only [Report.bind, hrest, List.flatMap_cons, List.map_cons]

theorem exists_of_mem_traverse {f : α → Report ε β} {as : List α} {bs : List β}
    (h : (traverse f as).result = .ok bs) {b : β} (hb : b ∈ bs) :
    ∃ a ∈ as, (f a).result = .ok b :=
  exists_left_of_forall₂ (traverse_eq_ok.1 h) hb

/-- A step comes after what the result is computed from, and records after it. -/
theorem bind_eq_of_ok {r : Report ε α} {a : α} (h : r.result = .ok a) (f : α → Report ε β) :
    r >>= f = ⟨r.diagnostics ++ (f a).diagnostics, (f a).result⟩ := by
  show Report.bind r f = _
  unfold Report.bind
  rw [h]

/-! ## Reports that give no less than others -/

/-- The second report gives whatever result the first gives. -/
def Within (r r' : Report ε α) : Prop :=
  ∀ a, r.result = .ok a → r'.result = .ok a

theorem Within.refl (r : Report ε α) : r.Within r :=
  fun _ h => h

theorem Within.bind {r r' : Report ε α} {f f' : α → Report ε β} (hr : r.Within r')
    (hf : ∀ a, (f a).Within (f' a)) : (r >>= f).Within (r' >>= f') := by
  intro b h
  rw [bind_eq_ok] at h ⊢
  obtain ⟨a, ha, hb⟩ := h
  exact ⟨a, hr a ha, hf a b hb⟩

theorem Within.traverse {f f' : α → Report ε β} (hf : ∀ a, (f a).Within (f' a)) (as : List α) :
    (traverse f as).Within (traverse f' as) := by
  intro bs h
  rw [traverse_eq_ok] at h ⊢
  exact h.imp fun {a b} hab => hf a b hab

end Report

end ApiShape
