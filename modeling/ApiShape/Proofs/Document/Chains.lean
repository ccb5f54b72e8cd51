import ApiShape.Normalize.Basic
import ApiShape.Proofs.Document.Ancestors
import Mathlib

/-!
# Chains of references

A reference resolves to a value if it leads to it from reference to reference, each pointing at the
next where a value of the kind is expected, and no text comes twice. Every reference that a pointer can
lead to is one of the references of the document, so a chain that meets none of them twice comes to an
end. Where it does not end in a value, the failure says how it ends, and names the reference that the
chain starts with.
-/

namespace ApiShape

/-! ## References that pointers lead to -/

namespace Target

variable {t t' : Target} {r : Ref}

/-- The references in an operation to other parts than schemas. -/
def operationReferences (o : Document.Operation) : List Ref :=
  o.parameters.filterMap RefOr.ref? ++ o.requestBody.toList.filterMap RefOr.ref? ++
    (o.responses.map (·.2)).filterMap RefOr.ref?

/-- The references in a path to other parts than schemas. -/
def pathReferences (p : Document.PathItem) : List Ref :=
  p.parameters.filterMap RefOr.ref? ++ p.operations.flatMap fun (_, o) => operationReferences o

/-- The references to other parts than schemas that a part of a document is or holds. -/
def outerReferences : Target → List Ref
  | .document d => d.paths.flatMap fun (_, p) => pathReferences p
  | .pathItems named => named.flatMap fun (_, p) => pathReferences p
  | .pathItem p => pathReferences p
  | .operation o => operationReferences o
  | .operationResponses named => (named.map (·.2)).filterMap RefOr.ref?
  | .parameterList places => places.filterMap RefOr.ref?
  | .reference .schema _ => []
  | .reference _ r => [r]
  | _ => []

theorem outerReferences_atSchema (place : RefOr Schema) : (atSchema place).outerReferences = [] := by
  cases place <;> rfl

theorem outerReferences_ofOption {α : Type} {part : α → Target}
    (h : ∀ a, (part a).outerReferences = []) (a : Option α) :
    (ofOption part a).outerReferences = [] := by
  cases a with
  | none => rfl
  | some a => exact h a

theorem mem_ref?_of_mem_outerReferences {α : Type} {kind : ComponentKind} {part : α → Target}
    (hpart : ∀ a, (part a).outerReferences = []) {place : RefOr α}
    (h : r ∈ (atPlace kind part place).outerReferences) : place.ref? = some r := by
  cases place with
  | inline a =>
    rw [atPlace, hpart a] at h
    cases h
  | ref r' =>
    cases kind with
    | schema => cases h
    | _ =>
      cases List.mem_singleton.1 h
      rfl

theorem outerReferences_of_shown_schema {s : Schema} (h : t ∈ (schema s).shown) :
    t.outerReferences = [] := by
  simp only [shown, view, Dict.values, List.map_cons, List.map_nil, List.mem_cons,
    List.not_mem_nil, or_false] at h
  rcases h with rfl | rfl | rfl | rfl | rfl | rfl | rfl
  · exact outerReferences_ofOption (fun _ => rfl) _
  · refine outerReferences_ofOption (fun additional => ?_) _
    cases additional with
    | flag b => rfl
    | schema place => exact outerReferences_atSchema place
  · exact outerReferences_ofOption outerReferences_atSchema _
  all_goals exact outerReferences_ofOption (fun _ => rfl) _

theorem outerReferences_of_shown_value {j : Json} (h : t ∈ (value j).shown) :
    t.outerReferences = [] := by
  unfold shown at h
  rw [view] at h
  cases hview : Pointee.view j <;> rw [hview] at h
  case keyed fields =>
    obtain ⟨_, _, rfl⟩ := mem_values_entries.1 h
    rfl
  case indexed items =>
    obtain ⟨_, _, rfl⟩ := List.mem_map.1 h
    rfl
  all_goals cases h

theorem mem_outerReferences_of_shown_operation {o : Document.Operation}
    (h : t ∈ (operation o).shown) (hr : r ∈ t.outerReferences) : r ∈ operationReferences o := by
  simp only [shown, view, Dict.values, List.map_cons, List.map_nil, List.mem_cons,
    List.not_mem_nil, or_false] at h
  simp only [operationReferences, List.mem_append]
  rcases h with rfl | rfl | rfl
  · exact .inl (.inl hr)
  · refine .inl (.inr (List.mem_filterMap.2 ?_))
    cases hbody : o.requestBody with
    | none =>
      rw [hbody] at hr
      cases hr
    | some place =>
      rw [hbody] at hr
      exact ⟨place, List.mem_singleton_self place, mem_ref?_of_mem_outerReferences (fun _ => rfl) hr⟩
  · exact .inr hr

theorem mem_outerReferences_of_shown_pathItem {p : Document.PathItem}
    (h : t ∈ (pathItem p).shown) (hr : r ∈ t.outerReferences) : r ∈ pathReferences p := by
  rcases mem_shown_pathItem h with ⟨method, rfl⟩ | rfl
  · cases ho : p.operation? method with
    | none =>
      rw [ho] at hr
      cases hr
    | some o =>
      rw [ho] at hr
      exact List.mem_append_right _ (List.mem_flatMap.2 ⟨_, mem_operations ho, hr⟩)
  · exact List.mem_append_left _ hr

/-- A part that is shown holds no such reference that the part that shows it does not hold. -/
theorem mem_outerReferences_of_shown (h : t' ∈ t.shown) (hr : r ∈ t'.outerReferences) :
    r ∈ t.outerReferences := by
  cases t with
  | document d =>
    simp only [shown, view, Dict.values, List.map_cons, List.map_nil, List.mem_cons,
      List.not_mem_nil, or_false] at h
    rcases h with rfl | rfl | rfl | rfl | rfl | rfl
    · exact hr
    · rw [outerReferences_ofOption fun _ => rfl] at hr
      cases hr
    all_goals cases hr
  | components c =>
    simp only [shown, view, Dict.values, List.map_cons, List.map_nil, List.mem_cons,
      List.not_mem_nil, or_false] at h
    rcases h with rfl | rfl | rfl | rfl | rfl <;> cases hr
  | pathItem p => exact mem_outerReferences_of_shown_pathItem h hr
  | operation o => exact mem_outerReferences_of_shown_operation h hr
  | schema s =>
    rw [outerReferences_of_shown_schema h] at hr
    cases hr
  | value j =>
    rw [outerReferences_of_shown_value h] at hr
    cases hr
  | parameter p | response p =>
    simp only [shown, view, Dict.values, List.map_cons, List.map_nil, List.mem_cons,
      List.not_mem_nil, or_false] at h
    rcases h with rfl | rfl
    all_goals
      rw [outerReferences_ofOption] at hr
      · cases hr
      · first
        | exact outerReferences_atSchema
        | exact fun _ => rfl
  | requestBody b =>
    cases List.mem_singleton.1 h
    cases hr
  | mediaType m =>
    cases List.mem_singleton.1 h
    rw [outerReferences_ofOption outerReferences_atSchema] at hr
    cases hr
  | pathItems named =>
    obtain ⟨p, hp, rfl⟩ := mem_values_entries.1 h
    obtain ⟨e, he, rfl⟩ := List.mem_map.1 hp
    exact List.mem_flatMap.2 ⟨e, he, hr⟩
  | operationResponses named =>
    obtain ⟨place, hplace, rfl⟩ := mem_values_entries.1 h
    exact List.mem_filterMap.2 ⟨place, hplace, mem_ref?_of_mem_outerReferences (fun _ => rfl) hr⟩
  | parameterList places =>
    obtain ⟨place, hplace, rfl⟩ := List.mem_map.1 h
    exact List.mem_filterMap.2 ⟨place, hplace, mem_ref?_of_mem_outerReferences (fun _ => rfl) hr⟩
  | schemas named =>
    obtain ⟨place, _, rfl⟩ := mem_values_entries.1 h
    rw [outerReferences_atSchema] at hr
    cases hr
  | schemaList places =>
    obtain ⟨place, _, rfl⟩ := List.mem_map.1 h
    rw [outerReferences_atSchema] at hr
    cases hr
  | parameters named | responses named | requestBodies named | content named
  | securitySchemes named =>
    obtain ⟨_, _, rfl⟩ := mem_values_entries.1 h
    cases hr
  | values items =>
    obtain ⟨_, _, rfl⟩ := List.mem_map.1 h
    cases hr
  | _ => cases h

theorem mem_outerReferences_of_follow {segments : List String}
    (h : Pointer.follow t segments = .ok t') (hr : r ∈ t'.outerReferences) :
    r ∈ t.outerReferences := by
  induction segments generalizing t with
  | nil =>
    cases h
    exact hr
  | cons segment rest ih =>
    obtain ⟨part, hstep, h⟩ := Pointer.follow_cons_eq_ok.1 h
    exact mem_outerReferences_of_shown (mem_shown_of_step hstep) (ih h)

end Target

/-! ## Values of a kind -/

namespace ComponentKind

/-- The values of a kind. -/
def Value : ComponentKind → Type
  | .schema => Schema
  | .parameter => Document.Parameter
  | .requestBody => Document.RequestBody
  | .response => Document.Response

/-- The part of a document that a value of a kind is. -/
def part : (k : ComponentKind) → k.Value → Target
  | .schema => .schema
  | .parameter => .parameter
  | .requestBody => .requestBody
  | .response => .response

instance component : (k : ComponentKind) → Component k.Value
  | .schema => inferInstanceAs (Component Schema)
  | .parameter => inferInstanceAs (Component Document.Parameter)
  | .requestBody => inferInstanceAs (Component Document.RequestBody)
  | .response => inferInstanceAs (Component Document.Response)

variable {k : ComponentKind}

theorem kind_value (k : ComponentKind) : Component.kind k.Value = k := by
  cases k <;> rfl

theorem ofTarget?_eq_some_iff {t : Target} {v : k.Value} :
    Component.ofTarget? t = some v ↔ t = k.part v := by
  constructor
  · intro h
    cases k <;> cases t <;> cases h <;> rfl
  · rintro rfl
    cases k <;> rfl

end ComponentKind

namespace Document

variable {d : Document} {k : ComponentKind} {r next last : Ref} {t : Target} {chain : List Ref}
  {reason : UnresolvedReason}

/-! ## Single steps -/

/-- The pointer of the reference leads to the part. -/
def PointsAt (d : Document) (r : Ref) (t : Target) : Prop :=
  ∃ p, r.pointer = .ok p ∧ p.resolve (Target.document d) = .ok t

/-- The reference points at another one where a value of the kind is expected. -/
def Continues (d : Document) (k : ComponentKind) (r next : Ref) : Prop :=
  d.PointsAt r (.reference k next)

/-- The reference points neither at a value of a kind nor at a reference where one is expected, for the
reason given. -/
def Misses (d : Document) (k : ComponentKind) (r : Ref) : UnresolvedReason → Prop
  | .badRef e => r.pointer = .error e
  | .pointer e => ∃ p, r.pointer = .ok p ∧ p.resolve (Target.document d) = .error e
  | .wrongKind expected => expected = k ∧
      ∃ t, d.PointsAt r t ∧ (∀ v, t ≠ k.part v) ∧ ∀ next, t ≠ .reference k next
  | .cycle _ => False

theorem target_of_pointsAt (h : d.PointsAt r t) : d.target r = .ok t := by
  obtain ⟨p, hp, ht⟩ := h
  rw [target, hp]
  dsimp only
  rw [ht]
  rfl

/-- A reference points at a value of the kind, or at a reference where one is expected, or misses. -/
theorem pointsAt_or_misses (d : Document) (k : ComponentKind) (r : Ref) :
    (∃ v, d.PointsAt r (k.part v)) ∨ (∃ next, d.Continues k r next) ∨
      ∃ reason, d.Misses k r reason := by
  cases hp : r.pointer with
  | error e => exact .inr (.inr ⟨.badRef e, hp⟩)
  | ok p =>
    cases ht : p.resolve (Target.document d) with
    | error e => exact .inr (.inr ⟨.pointer e, p, hp, ht⟩)
    | ok t =>
      have hpoints : d.PointsAt r t := ⟨p, hp, ht⟩
      -- What is pointed at is of the kind, a reference where the kind is expected, or neither.
      by_cases hvalue : ∃ v, t = k.part v
      · obtain ⟨v, rfl⟩ := hvalue
        exact .inl ⟨v, hpoints⟩
      by_cases hreference : ∃ next, t = .reference k next
      · obtain ⟨next, rfl⟩ := hreference
        exact .inr (.inl ⟨next, hpoints⟩)
      · exact .inr (.inr ⟨.wrongKind k, rfl, t, hpoints, fun v hv => hvalue ⟨v, hv⟩,
          fun next hnext => hreference ⟨next, hnext⟩⟩)

theorem stepFrom_of_value {v : k.Value} (h : d.PointsAt r (k.part v)) :
    stepFrom k.Value d r = .ok (.inline v) := by
  rw [stepFrom, target_of_pointsAt h]
  dsimp only
  rw [ComponentKind.ofTarget?_eq_some_iff.2 rfl]

theorem stepFrom_of_reference (h : d.Continues k r next) :
    stepFrom k.Value d r = .ok (.ref next) := by
  have hnone : (Component.ofTarget? (.reference k next) : Option k.Value) = none := by
    cases k <;> rfl
  rw [stepFrom, target_of_pointsAt h]
  dsimp only
  rw [hnone]
  exact if_pos (ComponentKind.kind_value k).symm

theorem stepFrom_of_misses (h : d.Misses k r reason) : stepFrom k.Value d r = .error reason := by
  cases reason with
  | badRef e =>
    have hp : r.pointer = .error e := h
    rw [stepFrom, target, hp]
  | pointer e =>
    obtain ⟨p, hp, ht⟩ := h
    rw [stepFrom, target, hp]
    dsimp only
    rw [ht]
    rfl
  | wrongKind expected =>
    obtain ⟨rfl, t, ht, hvalue, hreference⟩ := h
    have hnone : (Component.ofTarget? t : Option expected.Value) = none :=
      Option.eq_none_iff_forall_ne_some.2 fun v hv =>
        hvalue v (ComponentKind.ofTarget?_eq_some_iff.1 hv)
    rw [stepFrom, target_of_pointsAt ht]
    dsimp only
    rw [hnone, ComponentKind.kind_value]
    cases t with
    | reference kind next => exact if_neg fun hkind => hreference next (by rw [hkind])
    | _ => rfl
  | cycle text => exact h.elim

theorem continues_of_stepFrom (h : stepFrom k.Value d r = .ok (.ref next)) : d.Continues k r next := by
  rcases pointsAt_or_misses d k r with ⟨v, hvalue⟩ | ⟨q, hcontinues⟩ | ⟨reason, hmisses⟩
  · rw [stepFrom_of_value hvalue] at h
    cases h
  · rw [stepFrom_of_reference hcontinues] at h
    cases h
    exact hcontinues
  · rw [stepFrom_of_misses hmisses] at h
    cases h

theorem mem_references_of_mem_outerReferences (h : r ∈ (Target.document d).outerReferences) :
    r ∈ d.references := by
  obtain ⟨e, he, hmem⟩ := List.mem_flatMap.1 h
  simp only [Target.pathReferences, Target.operationReferences, List.mem_append,
    List.mem_flatMap, List.mem_filterMap] at hmem
  simp only [references, parameterPlaces, bodyPlaces, responsePlaces, List.mem_append,
    List.mem_filterMap, List.mem_flatMap]
  rcases hmem with ⟨place, hplace, hr⟩ | ⟨o, ho, (⟨place, hplace, hr⟩ | ⟨place, hplace, hr⟩) |
    ⟨place, hplace, hr⟩⟩
  · exact .inl (.inl (.inl ⟨place, ⟨e, he, .inl hplace⟩, hr⟩))
  · exact .inl (.inl (.inl ⟨place, ⟨e, he, .inr ⟨o, ho, hplace⟩⟩, hr⟩))
  · exact .inl (.inl (.inr ⟨place, ⟨e, he, o, ho, hplace⟩, hr⟩))
  · exact .inl (.inr ⟨place, ⟨e, he, o, ho, hplace⟩, hr⟩)

/-- A reference that a reference leads to, where a value of a kind is expected, is one of the references
of the document. -/
theorem Continues.mem_references (h : d.Continues k r next) : next ∈ d.references := by
  obtain ⟨p, hp, ht⟩ := id h
  cases k with
  | schema =>
    have hplace := hasPlace_of_target (target_of_pointsAt h) (.ref next) (List.mem_singleton_self _)
    exact hplace.mem_references
  | _ =>
    exact mem_references_of_mem_outerReferences
      (Target.mem_outerReferences_of_follow ht (List.mem_singleton_self next))

/-! ## Chains -/

/-- References that lead from the first to the last: each but the last points at the next where a value
of the kind is expected, and no text comes twice. -/
structure IsChain (d : Document) (k : ComponentKind) (r : Ref) (chain : List Ref) (last : Ref) :
    Prop where
  head : chain.head? = some r
  last : chain.getLast? = some last
  link : chain.IsChain (d.Continues k)
  distinct : (chain.map (·.text)).Nodup

/-- What a chain comes to: a value where the last reference points, or else a failure, for the reason
that the last reference misses or that it leads back to a text of the chain. -/
def Ends (d : Document) (k : ComponentKind) (chain : List Ref) (last : Ref) :
    Except UnresolvedReason k.Value → Prop
  | .ok v => d.PointsAt last (k.part v)
  | .error reason => d.Misses k last reason ∨
      ∃ next, d.Continues k last next ∧ next.text ∈ chain.map (·.text) ∧
        reason = .cycle next.text

/-- Of the texts of a reference and those of the document, the ones that may still be followed are
those that a chain has not come to. -/
def Unfollowed (d : Document) (r : Ref) (chain : List Ref) (texts : List String) : Prop :=
  ∀ q, q = r ∨ q ∈ d.references → (q.text ∈ texts ↔ q.text ∉ chain.map (·.text))

variable {before rest : List Ref} {texts : List String}

theorem Unfollowed.follow (h : d.Unfollowed r chain texts) (hnext : next ∈ d.references) :
    d.Unfollowed next (chain ++ [r]) (without texts r.text) := by
  intro q hq
  have hmem : q ∈ d.references := by
    rcases hq with rfl | hq
    · exact hnext
    · exact hq
  rw [mem_without, h q (.inr hmem), List.map_append, List.mem_append, not_or]
  exact and_congr_right' (not_congr List.mem_singleton.symm)

/-- The text of a reference that a chain comes to for the first time may still be followed. -/
theorem Unfollowed.mem (h : d.Unfollowed r before texts)
    (hdistinct : ((before ++ r :: rest).map (·.text)).Nodup) : r.text ∈ texts := by
  refine (h r (.inl rfl)).2 fun hmem => ?_
  rw [List.map_append, List.map_cons] at hdistinct
  exact (List.nodup_append.1 hdistinct).2.2 _ hmem _ List.mem_cons_self rfl

/-- A reference is not followed to a text that the chain has come to. -/
theorem Unfollowed.followFrom_eq_cycle (h : d.Unfollowed r before texts) (hnext : d.Continues k r next)
    (hback : next.text ∈ (before ++ [r]).map (·.text)) :
    followFrom k.Value d (without texts r.text) next = .error (.cycle next.text) := by
  have hout : next.text ∉ without texts r.text := fun hmem =>
    (h.follow hnext.mem_references next (.inl rfl)).1 hmem hback
  rw [followFrom, dif_neg hout]

/-- Whatever following a reference comes to, a chain ends in it that goes on from the reference. -/
theorem exists_chain_of_followFrom (before : List Ref) (texts : List String) (r : Ref)
    (htexts : d.Unfollowed r before texts)
    (hlink : (before ++ [r]).IsChain (d.Continues k))
    (hdistinct : ((before ++ [r]).map (·.text)).Nodup) :
    ∃ rest last, (r :: rest).getLast? = some last ∧
      (before ++ r :: rest).IsChain (d.Continues k) ∧
      ((before ++ r :: rest).map (·.text)).Nodup ∧
      d.Ends k (before ++ r :: rest) last (followFrom k.Value d texts r) := by
  have hin : r.text ∈ texts := htexts.mem hdistinct
  rw [followFrom, dif_pos hin]
  rcases pointsAt_or_misses d k r with ⟨v, hvalue⟩ | ⟨next, hnext⟩ | ⟨reason, hmisses⟩
  · -- The chain ends where a value is reached, where it goes back, or where it misses.
    rw [stepFrom_of_value hvalue]
    exact ⟨[], r, rfl, hlink, hdistinct, hvalue⟩
  · rw [stepFrom_of_reference hnext]
    dsimp only
    by_cases hback : next.text ∈ (before ++ [r]).map (·.text)
    · rw [htexts.followFrom_eq_cycle hnext hback]
      exact ⟨[], r, rfl, hlink, hdistinct, .inr ⟨next, hnext, hback, rfl⟩⟩
    · -- The chain is longer by one, and there is one text less to follow.
      have hlink' : ((before ++ [r]) ++ [next]).IsChain (d.Continues k) := by
        rw [List.append_assoc]
        exact List.isChain_append.2 ⟨(List.isChain_append.1 hlink).1,
          .cons_cons hnext (.singleton next), (List.isChain_append.1 hlink).2.2⟩
      have hdistinct' : (((before ++ [r]) ++ [next]).map (·.text)).Nodup := by
        rw [List.map_append, List.map_singleton]
        exact List.nodup_append.2 ⟨hdistinct, List.nodup_singleton _, fun a ha b hb hab =>
          hback (List.mem_singleton.1 hb ▸ hab ▸ ha)⟩
      obtain ⟨rest, last, hlast, hchain, hnodup, hends⟩ :=
        exists_chain_of_followFrom (before ++ [r]) (without texts r.text) next
          (htexts.follow hnext.mem_references) hlink' hdistinct'
      rw [List.append_assoc] at hchain hnodup hends
      refine ⟨next :: rest, last, ?_, hchain, hnodup, hends⟩
      rwa [List.getLast?_cons_cons]
  · rw [stepFrom_of_misses hmisses]
    exact ⟨[], r, rfl, hlink, hdistinct, .inl hmisses⟩
termination_by texts.length
decreasing_by exact length_without_lt hin

/-- Following a reference comes to whatever a chain ends in that goes on from the reference. -/
theorem followFrom_of_chain {result : Except UnresolvedReason k.Value}
    (htexts : d.Unfollowed r before texts)
    (hlast : (r :: rest).getLast? = some last)
    (hlink : (before ++ r :: rest).IsChain (d.Continues k))
    (hdistinct : ((before ++ r :: rest).map (·.text)).Nodup)
    (hends : d.Ends k (before ++ r :: rest) last result) :
    followFrom k.Value d texts r = result := by
  -- The references that the chain has come to grow by one as the rest of it shrinks.
  induction rest generalizing before r texts with
  | nil =>
    rw [followFrom, dif_pos (htexts.mem hdistinct)]
    obtain rfl : r = last := Option.some.inj hlast
    cases result with
    | ok v =>
      rw [stepFrom_of_value hends]
    | error reason =>
      rcases hends with hmisses | ⟨next, hnext, hback, rfl⟩
      · rw [stepFrom_of_misses hmisses]
      · rw [stepFrom_of_reference hnext]
        exact htexts.followFrom_eq_cycle hnext hback
  | cons next rest ih =>
    have hnext : d.Continues k r next := (List.isChain_append_cons_cons.1 hlink).2.1
    rw [followFrom, dif_pos (htexts.mem hdistinct), stepFrom_of_reference hnext]
    dsimp only
    rw [List.append_cons] at hlink hdistinct hends
    rw [List.getLast?_cons_cons] at hlast
    exact ih (htexts.follow hnext.mem_references) hlast hlink hdistinct hends

/-- A reference resolves to whatever a chain from it ends in, value or failure. -/
theorem resolve_eq_iff {result : Except UnresolvedReason k.Value} :
    d.resolve k.Value r = result ↔
      ∃ chain last, d.IsChain k r chain last ∧ d.Ends k chain last result := by
  -- A chain comes to no text but that of the reference and those of the document.
  have htexts : d.Unfollowed r [] (r.text :: d.references.map (·.text)) := by
    intro q hq
    refine iff_of_true ?_ (List.not_mem_nil)
    rcases hq with rfl | hq
    · exact List.mem_cons_self
    · exact List.mem_cons_of_mem _ (List.mem_map_of_mem hq)
  constructor
  · rintro rfl
    obtain ⟨rest, last, hlast, hlink, hdistinct, hends⟩ :=
      exists_chain_of_followFrom [] _ r htexts (.singleton r) (List.nodup_singleton _)
    exact ⟨r :: rest, last, ⟨rfl, hlast, hlink, hdistinct⟩, hends⟩
  · rintro ⟨chain, last, ⟨hhead, hlast, hlink, hdistinct⟩, hends⟩
    cases chain with
    | nil => cases hhead
    | cons q rest =>
      cases hhead
      exact @followFrom_of_chain d k _ last [] rest _ result htexts hlast hlink hdistinct hends

/-! ## Resolving -/

/-- A reference that others lead to is one of the references of the document. -/
theorem mem_references_of_link (h : (r :: rest).IsChain (d.Continues k))
    {q : Ref} (hq : q ∈ rest) : q ∈ d.references := by
  induction rest generalizing r with
  | nil => cases hq
  | cons next rest ih =>
    rcases List.mem_cons.1 hq with rfl | hq
    · exact (List.isChain_cons_cons.1 h).1.mem_references
    · exact ih (List.isChain_cons_cons.1 h).2 hq

/-- A chain is at most as long as there are references to follow. -/
theorem IsChain.length_le (h : d.IsChain k r chain last) :
    chain.length ≤ d.references.length + 1 := by
  obtain ⟨hhead, -, hlink, hdistinct⟩ := h
  cases chain with
  | nil => cases hhead
  | cons q rest =>
    have hsubset : ((q :: rest).map (·.text)) ⊆ q.text :: d.references.map (·.text) := by
      rw [List.map_cons]
      exact List.cons_subset_cons _ (List.map_subset _ fun _ => mem_references_of_link hlink)
    have hle := (List.subperm_of_subset hdistinct hsubset).length_le
    simp only [List.length_map, List.length_cons] at hle ⊢
    exact hle

/-- What comes out of a reference is what it resolves to; only failures get its text. -/
theorem resolved_result :
    (d.resolved k.Value r).result =
      (d.resolve k.Value r).mapError (NormalizeError.unresolvedReference r.text) :=
  rfl

theorem resolved_eq_ok_iff {v : k.Value} :
    (d.resolved k.Value r).result = .ok v ↔
      ∃ chain last, d.IsChain k r chain last ∧ d.PointsAt last (k.part v) := by
  have h : d.resolve k.Value r = .ok v ↔ _ := resolve_eq_iff
  refine Iff.trans ?_ h
  rw [resolved_result]
  cases d.resolve k.Value r <;> simp [Except.mapError]

theorem resolved_eq_error_iff {e : NormalizeError} :
    (d.resolved k.Value r).result = .error e ↔
      ∃ reason, e = .unresolvedReference r.text reason ∧
        ∃ chain last, d.IsChain k r chain last ∧ d.Ends k chain last (.error reason) := by
  simp only [← resolve_eq_iff, resolved_result]
  cases d.resolve k.Value r <;> simp [Except.mapError, eq_comm]

/-- No reference misses because of a cycle. -/
theorem ends_cycle_iff {text : String} :
    d.Ends k chain last (.error (.cycle text)) ↔
      ∃ next, d.Continues k last next ∧ next.text = text ∧ text ∈ chain.map (·.text) := by
  constructor
  · rintro (⟨⟨⟩⟩ | ⟨next, hnext, hback, hreason⟩)
    cases hreason
    exact ⟨next, hnext, rfl, hback⟩
  · rintro ⟨next, hnext, rfl, hback⟩
    exact .inr ⟨next, hnext, hback, rfl⟩

/-- Resolving a reference comes to an end, after no more references than there are. It comes to a value
if a chain of references does. A failure names the reference that is resolved and says how its chain
ends: the reason is a cycle if the chain leads to the text of a reference that it has followed already,
and else that its last reference misses. -/
theorem resolved_iff_chain (d : Document) (k : ComponentKind) (r : Ref) :
    (∀ chain last, d.IsChain k r chain last → chain.length ≤ d.references.length + 1) ∧
    (∀ v, (d.resolved k.Value r).result = .ok v ↔
      ∃ chain last, d.IsChain k r chain last ∧ d.PointsAt last (k.part v)) ∧
    (∀ e, (d.resolved k.Value r).result = .error e ↔
      ∃ reason, e = .unresolvedReference r.text reason ∧
        ∃ chain last, d.IsChain k r chain last ∧ d.Ends k chain last (.error reason)) ∧
    ∀ text, (d.resolved k.Value r).result = .error (.unresolvedReference r.text (.cycle text)) ↔
      ∃ chain last next, d.IsChain k r chain last ∧ d.Continues k last next ∧
        next.text = text ∧ text ∈ chain.map (·.text) := by
  refine ⟨fun _ _ h => h.length_le, fun v => resolved_eq_ok_iff, fun e => resolved_eq_error_iff,
    fun text => ?_⟩
  rw [resolved_eq_error_iff]
  constructor
  · rintro ⟨_, ⟨⟩, chain, last, hchain, hends⟩
    obtain ⟨next, hnext⟩ := ends_cycle_iff.1 hends
    exact ⟨chain, last, next, hchain, hnext⟩
  · rintro ⟨chain, last, next, hchain, hnext⟩
    exact ⟨_, rfl, chain, last, hchain, ends_cycle_iff.2 ⟨next, hnext⟩⟩

/-- Berths, of which one is called after another that is a dock, and two are called after each other. -/
def pier : Document :=
  { definitions := [
      ("Berth", .ref ⟨"#/definitions/Dock"⟩),
      ("Dock", .inline { types := [.object] }),
      ("Left", .ref ⟨"#/definitions/Right"⟩),
      ("Right", .ref ⟨" #/definitions/Left"⟩)] }

theorem resolved_iff_chain_pier :
    pier.IsChain .schema ⟨"#/definitions/Berth"⟩
        [⟨"#/definitions/Berth"⟩, ⟨"#/definitions/Dock"⟩] ⟨"#/definitions/Dock"⟩ ∧
      2 ≤ pier.references.length + 1 ∧
      (pier.resolved Schema ⟨"#/definitions/Berth"⟩).result = .ok { types := [.object] } ∧
      (pier.resolved Schema ⟨"#/definitions/Left"⟩).result =
        .error (.unresolvedReference "#/definitions/Left" (.cycle "#/definitions/Right")) := by
  have hberth : pier.Continues .schema ⟨"#/definitions/Berth"⟩ ⟨"#/definitions/Dock"⟩ :=
    ⟨⟨["definitions", "Berth"]⟩, by cbv, by cbv⟩
  have hdock : pier.PointsAt ⟨"#/definitions/Dock"⟩ (.schema { types := [.object] }) :=
    ⟨⟨["definitions", "Dock"]⟩, by cbv, by cbv⟩
  have hleft : pier.Continues .schema ⟨"#/definitions/Left"⟩ ⟨"#/definitions/Right"⟩ :=
    ⟨⟨["definitions", "Left"]⟩, by cbv, by cbv⟩
  have hright : pier.Continues .schema ⟨"#/definitions/Right"⟩ ⟨" #/definitions/Left"⟩ :=
    ⟨⟨["definitions", "Right"]⟩, by cbv, by cbv⟩
  have hback : pier.Continues .schema ⟨" #/definitions/Left"⟩ ⟨"#/definitions/Right"⟩ :=
    ⟨⟨["definitions", "Left"]⟩, by cbv, by cbv⟩
  have hchain : pier.IsChain .schema ⟨"#/definitions/Berth"⟩
      [⟨"#/definitions/Berth"⟩, ⟨"#/definitions/Dock"⟩] ⟨"#/definitions/Dock"⟩ :=
    ⟨rfl, rfl, .cons_cons hberth (.singleton _), by decide⟩
  have hloop : pier.IsChain .schema ⟨"#/definitions/Left"⟩
      [⟨"#/definitions/Left"⟩, ⟨"#/definitions/Right"⟩, ⟨" #/definitions/Left"⟩]
      ⟨" #/definitions/Left"⟩ :=
    ⟨rfl, rfl, .cons_cons hleft (.cons_cons hright (.singleton _)), by decide⟩
  obtain ⟨hlength, hvalue, -⟩ := resolved_iff_chain pier .schema ⟨"#/definitions/Berth"⟩
  obtain ⟨-, -, -, hcycle⟩ := resolved_iff_chain pier .schema ⟨"#/definitions/Left"⟩
  exact ⟨hchain, hlength _ _ hchain, (hvalue _).2 ⟨_, _, hchain, hdock⟩,
    (hcycle _).2 ⟨_, _, _, hloop, hback, rfl, by decide⟩⟩

end Document

end ApiShape
