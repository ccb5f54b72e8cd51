import ApiShape.Normalize.Schema
import ApiShape.Proofs.Alongside.Report
import ApiShape.Proofs.Document.Ancestors

/-!
# Documents side by side

Two documents whose parts correspond: references to references, schemas to schemas with corresponding
schemas at the same places. If one step from a reference leads to corresponding places, then
corresponding references resolve alike, and corresponding schemas have corresponding ancestors and
inherit corresponding properties.
-/

namespace ApiShape

/-! ## What corresponds -/

/-- Both places hold references that correspond, or both hold values that do. -/
inductive RefOr.Alongside {α : Type} (P : Ref → Ref → Prop) (S : α → α → Prop) :
    RefOr α → RefOr α → Prop
  | ref {r r'} (h : P r r') : Alongside P S (.ref r) (.ref r')
  | inline {a a'} (h : S a a') : Alongside P S (.inline a) (.inline a')

/-- Both say the same about additional properties, or have schemas for them that correspond. -/
inductive Additional.Alongside {α : Type} (R : α → α → Prop) : Additional α → Additional α → Prop
  | flag (b) : Alongside R (.flag b) (.flag b)
  | schema {a a'} (h : R a a') : Alongside R (.schema a) (.schema a')

/-- The entries have the same name and values that correspond. -/
def Named {α : Type} (R : α → α → Prop) (e e' : String × α) : Prop :=
  e.1 = e'.1 ∧ R e.2 e'.2

/-- Of entries that correspond, corresponding values are found under a name. -/
theorem rel_get? {α : Type} {R : α → α → Prop} {entries entries' : List (String × α)}
    (h : List.Forall₂ (Named R) entries entries') (name : String) :
    Option.Rel R (Dict.get? entries name) (Dict.get? entries' name) := by
  induction h with
  | nil => exact .none
  | @cons e e' _ _ he _ ih =>
    rw [Dict.get?, Dict.get?, he.1]
    split
    · exact .some he.2
    · exact ih

/-- How the parts of two documents, and of what becomes of them, correspond. -/
structure Pairing where
  ref : Ref → Ref → Prop
  schema : Schema → Schema → Prop
  docs : Docs → Docs → Prop
  node : Node → Node → Prop
  location : String → String → Prop
  reason : UnresolvedReason → UnresolvedReason → Prop
  error : NormalizeError → NormalizeError → Prop

/-- The places for schemas that correspond. -/
def Pairing.place (p : Pairing) : RefOr Schema → RefOr Schema → Prop :=
  RefOr.Alongside p.ref p.schema

/-- The discriminators give the same tags. -/
structure Discriminator.Alongside (P : Ref → Ref → Prop) (x x' : Discriminator) : Prop where
  propertyName : x.propertyName = x'.propertyName
  tagForName : ∀ name, x.tagForName name = x'.tagForName name
  tagForRef : ∀ r r', P r r' → x.tagForRef r = x'.tagForRef r'

namespace Schema

/-- What the nodes of single types are made of corresponds. -/
structure SameBody (R : RefOr Schema → RefOr Schema → Prop) (s s' : Schema) : Prop where
  constraints : s.constraints = s'.constraints
  const : s.const = s'.const
  required : s.required = s'.required
  tupleLength : s.tupleLength? = s'.tupleLength?
  properties : Option.Rel (List.Forall₂ (Named R)) s.properties s'.properties
  additional : Option.Rel (Additional.Alongside R) s.additional s'.additional
  items : Option.Rel R s.items s'.items

/-- The schemas differ in documentation and in what is at their places at most, and these
correspond. -/
structure Alongside (p : Pairing) (s s' : Schema) : Prop extends SameBody p.place s s' where
  types : s.types = s'.types
  nullable : s.isNullable = s'.isNullable
  enum : s.enum = s'.enum
  docs : p.docs s.docs s'.docs
  literal : ∀ i type value, p.docs (s.literal i type value).docs (s'.literal i type value).docs
  allOf : Option.Rel (List.Forall₂ p.place) s.allOf s'.allOf
  anyOf : Option.Rel (List.Forall₂ p.place) s.anyOf s'.anyOf
  oneOf : Option.Rel (List.Forall₂ p.place) s.oneOf s'.oneOf
  discriminator : Option.Rel (Discriminator.Alongside p.ref) s.discriminator s'.discriminator

end Schema

/-! ## What corresponds to itself -/

section

variable {α : Type} {R : α → α → Prop}

theorem rel_same {a : Option α} (h : ∀ x ∈ a, R x x) : Option.Rel R a a := by
  cases a with
  | none => exact .none
  | some a => exact .some (h a rfl)

theorem rel_refl (h : ∀ a, R a a) (a : Option α) : Option.Rel R a a :=
  rel_same fun x _ => h x

theorem named_refl (h : ∀ a, R a a) (entries : List (String × α)) :
    List.Forall₂ (Named R) entries entries :=
  List.forall₂_same.2 fun _ _ => ⟨rfl, h _⟩

theorem Additional.alongside_refl (h : ∀ a, R a a) (a : Additional α) : a.Alongside R a := by
  cases a with
  | flag b => exact .flag b
  | schema a => exact .schema (h a)

end

/-- A schema corresponds to itself if each of its places does, and references correspond to themselves
only. -/
theorem Schema.alongside_refl {p : Pairing} {s : Schema}
    (hplace : ∀ place ∈ s.parts, p.place place place) (hdocs : ∀ docs, p.docs docs docs)
    (href : ∀ r r', p.ref r r' → r = r') : s.Alongside p s where
  constraints := rfl
  const := rfl
  required := rfl
  tupleLength := rfl
  properties := rel_same fun named hnamed => List.forall₂_same.2 fun e he =>
    ⟨rfl, hplace e.2 (mem_parts_of_property (by rwa [hnamed]))⟩
  additional := rel_same fun additional h => by
    cases additional with
    | flag b => exact .flag b
    | schema place => exact .schema (hplace place (mem_parts_of_additional h))
  items := rel_same fun place h => hplace place (mem_parts_of_items h)
  types := rfl
  nullable := rfl
  enum := rfl
  docs := hdocs _
  literal _ _ _ := hdocs _
  allOf := rel_same fun branches h => List.forall₂_same.2 fun place hmem =>
    hplace place (mem_parts_of_allOf (by rwa [h]))
  anyOf := rel_same fun branches h => List.forall₂_same.2 fun place hmem =>
    hplace place (mem_parts_of_anyOf (by rwa [h]))
  oneOf := rel_same fun branches h => List.forall₂_same.2 fun place hmem =>
    hplace place (mem_parts_of_oneOf (by rwa [h]))
  discriminator := rel_refl (fun _ => ⟨rfl, fun _ => rfl, fun r r' h => href r r' h ▸ rfl⟩) _

/-! ## What nodes must satisfy -/

/-- Nodes that are built in the same way of corresponding nodes correspond. -/
structure Node.Congruence (N : Node → Node → Prop) (C : Docs → Docs → Prop) : Prop where
  noDocs : C {} {}
  docs : ∀ n m, N n m → C n.docs m.docs
  operator : ∀ n m, N n m → n.operator = m.operator
  items : ∀ n m, N n m → List.Forall₂ N n.items m.items
  properties : ∀ n m, N n m → List.Forall₂ (Named N) n.properties m.properties
  ofType : ∀ type, N (.ofType type) (.ofType type)
  ofReference : ∀ reference, N (.ofReference reference) (.ofReference reference)
  combined : ∀ type operator items items' docs docs', type.isSome = true ∨ operator.isSome = true →
    List.Forall₂ N items items' → C docs docs' →
    N { type, operator, items, docs } { type, operator, items := items', docs := docs' }
  object : ∀ properties properties' required additional additional',
    List.Forall₂ (Named N) properties properties' → Option.Rel N additional additional' →
    N { type := some .object, properties, required, additional }
      { type := some .object, properties := properties', required, additional := additional' }
  /-- What has a type can be given any constant, documentation and validation keywords. -/
  typed : ∀ (n m : Node) const docs docs' constraints, N n m → n.type.isSome = true →
    C docs docs' → N { n with const, docs, constraints } { m with const, docs := docs', constraints }
  promote : ∀ n m required, N n m → N (Schema.promote required n) (Schema.promote required m)
  dedupe : ∀ operator items items' docs docs', List.Forall₂ N items items' → C docs docs' →
    N (Node.dedupe { Node.composition operator items with docs })
      (Node.dedupe { Node.composition operator items' with docs := docs' })
  orNull : ∀ n m, N n m → N (Schema.orNull n) (Schema.orNull m)

open Document in
/-- The parts of the documents correspond all the way down, and what is made of them in the same way
corresponds as well. -/
structure Pairing.Holds (p : Pairing) (d d' : Document) : Prop where
  nodes : Node.Congruence p.node p.docs
  schema : ∀ s s', p.schema s s' → s.Alongside p s'
  text : ∀ r r' q q', p.ref r r' → p.ref q q' → (r.text = q.text ↔ r'.text = q'.text)
  normalized : ∀ r r', p.ref r r' → r.normalized = r'.normalized
  locationOf : ∀ r r' l l', p.ref r r' → p.location l l' →
    p.location (locationOf r l) (locationOf r' l')
  append : ∀ l l' part, p.location l l' → p.location (l ++ part) (l' ++ part)
  step : ∀ r r', p.ref r r' →
    Both p.reason p.place (stepFrom Schema d r) (stepFrom Schema d' r')
  cycle : ∀ r r', p.ref r r' → p.reason (.cycle r.text) (.cycle r'.text)
  unresolved : ∀ r r' e e', p.ref r r' → p.reason e e' →
    p.error (.unresolvedReference r.text e) (.unresolvedReference r'.text e')
  endless : p.error .endless .endless

/-! ## Equal nodes -/

/-- Nodes that are built in the same way of equal nodes are equal. -/
theorem Node.congruence_eq : Node.Congruence Eq Eq where
  noDocs := rfl
  docs _ _ h := congrArg _ h
  operator _ _ h := congrArg _ h
  items n _ h := by
    subst h
    exact List.forall₂_same.2 fun _ _ => rfl
  properties n _ h := by
    subst h
    exact List.forall₂_same.2 fun _ _ => ⟨rfl, rfl⟩
  ofType _ := rfl
  ofReference _ := rfl
  combined _ _ items items' docs _ _ hitems hdocs := by
    rw [List.forall₂_eq_eq_eq] at hitems
    subst hitems hdocs
    rfl
  object properties properties' required additional additional' hproperties hadditional := by
    have hentries : List.Forall₂ Eq properties properties' :=
      hproperties.imp fun _ _ h => Prod.ext h.1 h.2
    rw [List.forall₂_eq_eq_eq] at hentries
    subst hentries
    cases hadditional with
    | some h =>
      subst h
      rfl
    | none => rfl
  typed _ _ _ _ _ _ h _ hdocs := by
    subst h hdocs
    rfl
  promote _ _ _ h := h ▸ rfl
  dedupe _ _ _ _ _ hitems hdocs := by
    rw [List.forall₂_eq_eq_eq] at hitems
    subst hitems hdocs
    rfl
  orNull _ _ h := h ▸ rfl

/-! ## Chains of references -/

/-- Corresponding references are followed alike if every step from them goes on to references that
correspond again, and if of such references both may be followed or none. -/
theorem Document.followFrom_alongside {α : Type} [Component α] {P : Ref → Ref → Prop}
    {S : α → α → Prop} {E : UnresolvedReason → UnresolvedReason → Prop} {d d' : Document}
    (hstep : ∀ r r', P r r' →
      Both E (RefOr.Alongside P S) (stepFrom α d r) (stepFrom α d' r'))
    (hcycle : ∀ r r', P r r' → E (.cycle r.text) (.cycle r'.text))
    (htext : ∀ r r' q q', P r r' → P q q' → (r.text = q.text ↔ r'.text = q'.text))
    {unfollowed unfollowed' : List String}
    (hmem : ∀ q q', P q q' → (q.text ∈ unfollowed ↔ q'.text ∈ unfollowed')) {r r' : Ref}
    (hr : P r r') :
    Both E S (followFrom α d unfollowed r) (followFrom α d' unfollowed' r') := by
  have hfirst' := hstep r r' hr
  induction unfollowed, r using followFrom.induct α d generalizing unfollowed' r' with
  | case1 unfollowed r hin e hfirst =>
    rw [followFrom, followFrom, dif_pos hin, dif_pos ((hmem r r' hr).1 hin)]
    rw [hfirst] at hfirst' ⊢
    generalize stepFrom α d' r' = first at hfirst' ⊢
    cases hfirst' with
    | error he => exact .error he
  | case2 unfollowed r hin a hfirst =>
    rw [followFrom, followFrom, dif_pos hin, dif_pos ((hmem r r' hr).1 hin)]
    rw [hfirst] at hfirst' ⊢
    generalize stepFrom α d' r' = first at hfirst' ⊢
    cases hfirst' with
    | ok ha =>
      cases ha with
      | inline ha => exact .ok ha
  | case3 unfollowed r hin next hfirst ih =>
    rw [followFrom, followFrom, dif_pos hin, dif_pos ((hmem r r' hr).1 hin)]
    rw [hfirst] at hfirst' ⊢
    generalize stepFrom α d' r' = first at hfirst' ⊢
    cases hfirst' with
    | ok hplace =>
      cases hplace with
      | @ref _ next' hnext =>
        -- The references followed now are not followed again on either side.
        refine ih (fun q q' hq => ?_) hnext (hstep next next' hnext)
        rw [mem_without, mem_without, hmem q q' hq, Ne, Ne, htext q q' r r' hq hr]
  | case4 unfollowed r hout =>
    rw [followFrom, followFrom, dif_neg hout, dif_neg (mt (hmem r r' hr).2 hout)]
    exact .error (hcycle r r' hr)

namespace Pairing.Holds

open Document

variable {p : Pairing} {d d' : Document} {r r' : Ref} {s s' : Schema} {l l' name : String}

/-! ## References -/

/-- Corresponding references resolve to corresponding schemas, or neither resolves. -/
theorem resolve (h : p.Holds d d') (hr : p.ref r r') :
    Both p.reason p.schema (d.resolve Schema r) (d'.resolve Schema r') := by
  -- The chains go on to references at places of the documents, which may both be followed.
  have hstep : ∀ q q', (p.ref q q' ∧ (q = r ∧ q' = r' ∨ d.HasPlace (.ref q) ∧ d'.HasPlace (.ref q'))) →
      Both p.reason (RefOr.Alongside (fun q q' =>
          p.ref q q' ∧ (q = r ∧ q' = r' ∨ d.HasPlace (.ref q) ∧ d'.HasPlace (.ref q'))) p.schema)
        (stepFrom Schema d q) (stepFrom Schema d' q') := by
    rintro q q' ⟨hq, -⟩
    have hstep := h.step q q' hq
    have hplace : ∀ place, stepFrom Schema d q = .ok place → d.HasPlace place :=
      fun _ => hasPlace_of_stepFrom
    have hplace' : ∀ place, stepFrom Schema d' q' = .ok place → d'.HasPlace place :=
      fun _ => hasPlace_of_stepFrom
    generalize stepFrom Schema d q = first at hstep hplace ⊢
    generalize stepFrom Schema d' q' = first' at hstep hplace' ⊢
    cases hstep with
    | error he => exact .error he
    | ok hs =>
      cases hs with
      | inline hs => exact .ok (.inline hs)
      | ref hnext => exact .ok (.ref ⟨hnext, .inr ⟨hplace _ rfl, hplace' _ rfl⟩⟩)
  refine followFrom_alongside hstep (fun q q' hq => h.cycle q q' hq.1)
    (fun q q' next next' hq hnext => h.text q q' next next' hq.1 hnext.1) ?_ ⟨hr, .inl ⟨rfl, rfl⟩⟩
  rintro q q' ⟨-, ⟨rfl, rfl⟩ | ⟨hq, hq'⟩⟩
  · exact iff_of_true List.mem_cons_self List.mem_cons_self
  · exact iff_of_true (List.mem_cons_of_mem _ (List.mem_map_of_mem hq.mem_references))
      (List.mem_cons_of_mem _ (List.mem_map_of_mem hq'.mem_references))

theorem resolved (h : p.Holds d d') (hr : p.ref r r') :
    (d.resolved Schema r).Alongside p.location p.error p.schema (d'.resolved Schema r') := by
  refine .ofExcept ?_
  have hresolve := h.resolve hr
  generalize d.resolve Schema r = found at hresolve ⊢
  generalize d'.resolve Schema r' = found' at hresolve ⊢
  cases hresolve with
  | ok hs => exact .ok hs
  | error he => exact .error (h.unresolved r r' _ _ hr he)

/-! ## Locations -/

theorem locate (h : p.Holds d d') (hl : p.location l l') (segments : List String) :
    p.location (locate l segments) (ApiShape.locate l' segments) :=
  h.append l l' _ hl

/-! ## Ancestors -/

/-- Branches that lie at corresponding locations and hold what corresponds. -/
structure BranchAlongside (p : Pairing) (b b' : Branch) : Prop where
  place : p.place b.place b'.place
  location : p.location b.location b'.location

/-- Ancestors that lie at corresponding locations and correspond. -/
structure AncestorAlongside (p : Pairing) (a a' : Ancestor) : Prop where
  schema : p.schema a.schema a'.schema
  location : p.location a.location a'.location

theorem branchesFrom (h : p.Holds d d') (hl : p.location l l') {places places' : List (RefOr Schema)}
    (hplaces : List.Forall₂ p.place places places') (i : Nat) :
    List.Forall₂ (BranchAlongside p) (Schema.branchesFrom l i places)
      (Schema.branchesFrom l' i places') := by
  induction hplaces generalizing i with
  | nil => exact .nil
  | cons hplace _ ih =>
    exact .cons ⟨hplace, h.append _ _ _ (h.append _ _ _ hl)⟩ (ih (i + 1))

theorem branches (h : p.Holds d d') (hs : p.schema s s') (hl : p.location l l') :
    List.Forall₂ (BranchAlongside p) (s.branches l) (s'.branches l') :=
  h.branchesFrom hl (forall₂_getD (h.schema s s' hs).allOf) 0

/-- Corresponding references are met or not on both sides. -/
def MetAlongside (p : Pairing) (met met' : List String) : Prop :=
  ∀ q q', p.ref q q' → (q.text ∈ met ↔ q'.text ∈ met')

theorem MetAlongside.cons (h : p.Holds d d') (hr : p.ref r r') {met met' : List String}
    (hmet : MetAlongside p met met') : MetAlongside p (r.text :: met) (r'.text :: met') := by
  intro q q' hq
  rw [List.mem_cons, List.mem_cons, h.text q q' r r' hq hr, hmet q q' hq]

/-- Corresponding branches are searched alongside. -/
theorem visits (h : p.Holds d d') {met met' left : List String} {branches branches' : List Branch}
    {found : List Ancestor} (hvisits : d.Visits met branches found left)
    (hbranches : List.Forall₂ (BranchAlongside p) branches branches')
    (hmet : MetAlongside p met met') :
    ∃ found' left', d'.Visits met' branches' found' left' ∧
      List.Forall₂ (AncestorAlongside p) found found' ∧ MetAlongside p left left' := by
  induction hvisits generalizing met' branches' with
  | done met =>
    cases hbranches
    exact ⟨[], met', .done met', .nil, hmet⟩
  | @inline met mid left s location rest above beside _ _ ihabove ihbeside =>
    obtain ⟨⟨place', location'⟩, rest', ⟨hplace, hlocation⟩, hrest, rfl⟩ :=
      List.forall₂_cons_left_iff.1 hbranches
    cases hplace with
    | @inline _ s' hs =>
      obtain ⟨above', mid', habove', hfound, hmid⟩ := ihabove (h.branches hs hlocation) hmet
      obtain ⟨beside', left', hbeside', hfound', hleft⟩ := ihbeside hrest hmid
      exact ⟨_, left', .inline habove' hbeside',
        List.rel_append (.cons ⟨hs, hlocation⟩ hfound) hfound', hleft⟩
  | @target met mid left r s location rest above beside hnew hresolve _ _ ihabove ihbeside =>
    obtain ⟨⟨place', location'⟩, rest', ⟨hplace, hlocation⟩, hrest, rfl⟩ :=
      List.forall₂_cons_left_iff.1 hbranches
    cases hplace with
    | @ref _ r' hr =>
      have hnew' : r'.text ∉ met' := mt (hmet r r' hr).2 hnew
      have hresolve' := h.resolve hr
      rw [hresolve] at hresolve'
      generalize hs' : d'.resolve Schema r' = found' at hresolve'
      cases hresolve' with
      | @ok _ s' hs =>
        have hlocation := h.locationOf r r' location location' hr hlocation
        obtain ⟨above', mid', habove', hfound, hmid⟩ :=
          ihabove (h.branches hs hlocation) (hmet.cons h hr)
        obtain ⟨beside', left', hbeside', hfound', hleft⟩ := ihbeside hrest hmid
        exact ⟨_, left', .target hnew' hs' habove' hbeside',
          List.rel_append (.cons ⟨hs, hlocation⟩ hfound) hfound', hleft⟩
  | @dangling met left r e location rest beside hnew hresolve _ ih =>
    obtain ⟨⟨place', location'⟩, rest', ⟨hplace, hlocation⟩, hrest, rfl⟩ :=
      List.forall₂_cons_left_iff.1 hbranches
    cases hplace with
    | @ref _ r' hr =>
      have hnew' : r'.text ∉ met' := mt (hmet r r' hr).2 hnew
      have hresolve' := h.resolve hr
      rw [hresolve] at hresolve'
      generalize he' : d'.resolve Schema r' = found' at hresolve'
      cases hresolve' with
      | @error _ e' _ =>
        obtain ⟨found', left', hvisits', hfound, hleft⟩ := ih hrest (hmet.cons h hr)
        exact ⟨found', left', .dangling hnew' he' hvisits', hfound, hleft⟩
  | @again met left r location rest beside hold _ ih =>
    obtain ⟨⟨place', location'⟩, rest', ⟨hplace, hlocation⟩, hrest, rfl⟩ :=
      List.forall₂_cons_left_iff.1 hbranches
    cases hplace with
    | @ref _ r' hr =>
      obtain ⟨found', left', hvisits', hfound, hleft⟩ := ih hrest hmet
      exact ⟨found', left', .again ((hmet r r' hr).1 hold) hvisits', hfound, hleft⟩

/-- Corresponding schemas have corresponding ancestors, in the same order. -/
theorem ancestors (h : p.Holds d d') (hs : p.schema s s') (hl : p.location l l') :
    List.Forall₂ (AncestorAlongside p) (d.ancestors s l) (d'.ancestors s' l') := by
  obtain ⟨left, hvisits⟩ := d.visits_ancestors s l
  obtain ⟨left', hvisits'⟩ := d'.visits_ancestors s' l'
  have hnone : MetAlongside p [] [] := fun q q' _ => iff_of_false (by simp) (by simp)
  obtain ⟨found, _, hfound, halongside, -⟩ := h.visits hvisits (h.branches hs hl) hnone
  -- A search finds one thing only.
  rw [← (hvisits'.unique hfound).1]
  exact halongside

/-! ## Inherited properties -/

/-- Properties that correspond and lie at corresponding locations. -/
structure InheritedAlongside (p : Pairing) (x x' : Inherited) : Prop where
  property : p.place x.property x'.property
  location : p.location x.location x'.location

theorem property? (h : p.Holds d d') (hs : p.schema s s') (name : String) :
    Option.Rel p.place (s.property? name) (s'.property? name) := by
  have hproperties := (h.schema s s' hs).properties
  unfold Schema.property?
  generalize s.properties = properties at hproperties ⊢
  generalize s'.properties = properties' at hproperties ⊢
  cases hproperties with
  | none => exact .none
  | some hentries => exact rel_get? hentries name

/-- Corresponding schemas take over corresponding properties. -/
theorem inheritedProperty? (h : p.Holds d d') (hs : p.schema s s') (hl : p.location l l')
    (name : String) :
    Option.Rel (InheritedAlongside p) (d.inheritedProperty? s l name)
      (d'.inheritedProperty? s' l' name) := by
  refine rel_findSome? (h.ancestors hs hl) fun a a' ha => ?_
  have hproperty := h.property? ha.schema name
  generalize a.schema.property? name = property at hproperty ⊢
  generalize a'.schema.property? name = property' at hproperty ⊢
  cases hproperty with
  | none => exact .none
  | some hplace => exact .some ⟨hplace, h.append _ _ _ (h.append _ _ _ ha.location)⟩

end Pairing.Holds

end ApiShape
