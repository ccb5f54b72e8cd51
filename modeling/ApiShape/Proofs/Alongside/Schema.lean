import ApiShape.Proofs.Alongside.Pairing
import ApiShape.Proofs.Normalize.Layer

/-!
# Schemas side by side

Corresponding schemas become corresponding nodes, within the same number of steps. Every step of a
normalization runs alongside its counterpart if the normalizers for the schemas right inside do, and
the steps are counted down together.
-/

namespace ApiShape

/-- The normalizers run alongside on corresponding places at corresponding locations. -/
def Normalizer.Alongside (p : Pairing) (normalize normalize' : Normalizer) : Prop :=
  ∀ place place' l l', p.place place place' → p.location l l' →
    (normalize place l).Alongside p.location p.error p.node (normalize' place' l')

/-- The forms are the same, with corresponding branches. -/
inductive Schema.Form.Alongside (R : RefOr Schema → RefOr Schema → Prop) : Form → Form → Prop
  | enum (values) : Alongside R (.enum values) (.enum values)
  | allOf {branches branches'} (h : List.Forall₂ R branches branches') :
      Alongside R (.allOf branches) (.allOf branches')
  | anyOf {branches branches'} (h : List.Forall₂ R branches branches') :
      Alongside R (.anyOf branches) (.anyOf branches')
  | oneOf {branches branches'} (h : List.Forall₂ R branches branches') :
      Alongside R (.oneOf branches) (.oneOf branches')
  | typed : Alongside R .typed .typed
  | untyped : Alongside R .untyped .untyped

/-! ## Dictionaries side by side -/

section

variable {α : Type} {R : α → α → Prop} {entries entries' : Dict α}

theorem has_eq_of_named (h : List.Forall₂ (Named R) entries entries') (name : String) :
    Dict.has entries name = Dict.has entries' name :=
  isSome_eq_of_rel (rel_get? h name)

theorem named_insert (h : List.Forall₂ (Named R) entries entries') (name : String) {a a' : α}
    (ha : R a a') :
    List.Forall₂ (Named R) (Dict.insert entries name a) (Dict.insert entries' name a') := by
  induction h with
  | nil => exact .cons ⟨rfl, ha⟩ .nil
  | @cons e e' rest rest' he hrest ih =>
    obtain ⟨key, b⟩ := e
    obtain ⟨key', b'⟩ := e'
    obtain ⟨rfl, hb⟩ := he
    rw [Dict.insert, Dict.insert]
    split
    · exact .cons ⟨rfl, ha⟩ hrest
    · exact .cons ⟨rfl, hb⟩ ih

end

namespace Pairing

/-- Nodes that correspond and have a type. -/
def Typed (p : Pairing) (n m : Node) : Prop :=
  p.node n m ∧ n.type.isSome = true

/-- Nodes that correspond, whatever corresponding documentation they are given. -/
def Plain (p : Pairing) (n m : Node) : Prop :=
  p.node n m ∧ ∀ docs docs', p.docs docs docs' → p.node { n with docs } { m with docs := docs' }

namespace Holds

variable {p : Pairing} {d d' : Document} {normalize normalize' : Normalizer} {s s' : Schema}
  {l l' : String}

/-! ## Enums -/

theorem literal (h : p.Holds d d') (hs : s.Alongside p s') (i : Nat) (type : NodeType)
    (value : Json) : p.node (s.literal i type value) (s'.literal i type value) :=
  h.nodes.typed (.ofType type) (.ofType type) (some value) _ _ {} (h.nodes.ofType type) rfl
    (hs.literal i type value)

theorem literals (h : p.Holds d d') (hs : s.Alongside p s') (hl : p.location l l') (i : Nat)
    (values : List Json) :
    (s.literals l i values).Alongside p.location p.error (List.Forall₂ p.node)
      (s'.literals l' i values) := by
  induction values generalizing i with
  | nil => exact .pure .nil
  | cons value rest ih =>
    have hskip : (s.literals l (i + 1) rest).Alongside p.location p.error (List.Forall₂ p.node)
        (s'.literals l' (i + 1) rest) := ih (i + 1)
    unfold Schema.literals
    rw [hs.nullable]
    cases Schema.literalType? s'.isNullable value with
    | some type => exact hskip.bind fun ns ms hns => .pure (.cons (h.literal hs i type value) hns)
    | none =>
      -- Only what is skipped because it is a list or an object is recorded.
      have hrecorded : ∀ {message : String}, (do
          Report.record .unsupportedEnumValueType (ApiShape.locate l ["enum", toString i]) message
          s.literals l (i + 1) rest).Alongside p.location p.error (List.Forall₂ p.node) (do
            Report.record .unsupportedEnumValueType (ApiShape.locate l' ["enum", toString i]) message
            s'.literals l' (i + 1) rest) :=
        (Report.Alongside.record (h.locate hl _)).bind fun _ _ _ => hskip
      cases value with
      | array _ | object _ => exact hrecorded
      | null | bool _ | number _ | string _ => exact hskip

theorem enumeration (h : p.Holds d d') (hs : s.Alongside p s') (hl : p.location l l')
    (values : List Json) :
    (s.enumeration l values).Alongside p.location p.error p.node (s'.enumeration l' values) :=
  (h.literals hs hl 0 values).bind fun _ _ hitems =>
    .pure (h.nodes.combined _ _ _ _ _ _ (.inl rfl) hitems hs.docs)

/-! ## Objects and lists -/

theorem propertyNodes (h : p.Holds d d') (hn : normalize.Alongside p normalize')
    (hs : s.SameBody p.place s') (hl : p.location l l') :
    (s.propertyNodes normalize l).Alongside p.location p.error (List.Forall₂ (Named p.node))
      (s'.propertyNodes normalize' l') := by
  refine .traverse ((forall₂_getD hs.properties).imp ?_)
  rintro ⟨name, place⟩ ⟨_, place'⟩ ⟨rfl, hplace⟩
  exact (hn place place' _ _ hplace (h.locate hl _)).bind fun _ _ hnode => .pure ⟨rfl, hnode⟩

theorem additionalNode (h : p.Holds d d') (hn : normalize.Alongside p normalize')
    (hs : s.SameBody p.place s') (hl : p.location l l') {properties properties' : Dict Node}
    (hproperties : List.Forall₂ (Named p.node) properties properties') :
    (s.additionalNode normalize l properties).Alongside p.location p.error (Option.Rel p.node)
      (s'.additionalNode normalize' l' properties') := by
  have hadditional := hs.additional
  unfold Schema.additionalNode
  generalize s.additional = additional at hadditional ⊢
  generalize s'.additional = additional' at hadditional ⊢
  cases hadditional with
  | none =>
    refine .pure ?_
    rw [isEmpty_eq_of_forall₂ hproperties]
    split
    · exact .some (h.nodes.ofType _)
    · exact .none
  | some hsame =>
    cases hsame with
    | flag b => cases b <;> exact .pure (.some (h.nodes.ofType _))
    | schema hplace =>
      exact (hn _ _ _ _ hplace (h.locate hl _)).bind fun _ _ hnode => .pure (.some hnode)

theorem objectNode (h : p.Holds d d') (hn : normalize.Alongside p normalize')
    (hs : s.SameBody p.place s') (hl : p.location l l') {properties properties' : Dict Node}
    (hproperties : List.Forall₂ (Named p.node) properties properties') :
    (s.objectNode normalize l properties).Alongside p.location p.error
      (fun n m => p.Typed n m ∧ n.properties = properties ∧ m.properties = properties')
      (s'.objectNode normalize' l' properties') := by
  refine (h.additionalNode hn hs hl hproperties).bind fun additional additional' hadditional => ?_
  have hrequired : s.required.filter (Dict.has properties) =
      s'.required.filter (Dict.has properties') := by
    rw [hs.required]
    exact List.filter_congr fun name _ => has_eq_of_named hproperties name
  refine .pure ⟨⟨?_, rfl⟩, rfl, rfl⟩
  rw [hrequired]
  exact h.nodes.object _ _ _ _ _ hproperties hadditional

theorem arrayNode (h : p.Holds d d') (hn : normalize.Alongside p normalize')
    (hs : s.SameBody p.place s') (hl : p.location l l') :
    (s.arrayNode normalize l).Alongside p.location p.error p.Typed (s'.arrayNode normalize' l') := by
  have hitem : (s.itemNode normalize l).Alongside p.location p.error (Option.Rel p.node)
      (s'.itemNode normalize' l') := by
    have hitems := hs.items
    unfold Schema.itemNode
    generalize s.items = items at hitems ⊢
    generalize s'.items = items' at hitems ⊢
    cases hitems with
    | none => exact .pure .none
    | some hplace => exact (hn _ _ _ _ hplace (h.locate hl _)).map fun _ _ hnode => .some hnode
  rw [Schema.arrayNode_eq, Schema.arrayNode_eq]
  refine hitem.map fun item item' hitem => ?_
  unfold Schema.listOf
  rw [hs.tupleLength]
  cases s'.tupleLength? with
  | none =>
    have hlist := h.nodes.combined (some .array) none _ _ {} {} (.inl rfl) (forall₂_toList hitem)
      h.nodes.noDocs
    exact ⟨hlist, rfl⟩
  | some length =>
    -- Every position of a tuple has the same node.
    have hnode : p.node (item.getD (.ofType .unknown)) (item'.getD (.ofType .unknown)) := by
      cases hitem with
      | none => exact h.nodes.ofType _
      | some hnode => exact hnode
    have htuple := h.nodes.combined (some .tuple) none _ _ {} {} (.inl rfl)
      (forall₂_replicate hnode length) h.nodes.noDocs
    exact ⟨htuple, rfl⟩

/-! ## Types -/

theorem bareNode (h : p.Holds d d') (hn : normalize.Alongside p normalize')
    (hs : s.SameBody p.place s') (hl : p.location l l') (type : SchemaType) :
    (s.bareNode normalize l type).Alongside p.location p.error p.Typed
      (s'.bareNode normalize' l' type) := by
  cases type with
  | array => exact h.arrayNode hn hs hl
  | object =>
    exact (h.propertyNodes hn hs hl).bind fun _ _ hproperties =>
      (h.objectNode hn hs hl hproperties).imp fun _ _ hobject => hobject.1
  | string | integer | number | boolean | null | other =>
    exact .pure ⟨h.nodes.ofType _, rfl⟩

theorem typeNode (h : p.Holds d d') (hn : normalize.Alongside p normalize')
    (hs : s.SameBody p.place s') (hl : p.location l l') (type : SchemaType) :
    (s.typeNode normalize l type).Alongside p.location p.error p.Plain
      (s'.typeNode normalize' l' type) := by
  refine (h.bareNode hn hs hl type).bind fun n m hnm => ?_
  obtain ⟨hnode, htype⟩ := hnm
  rw [hs.constraints, hs.const]
  have hdocs := h.nodes.docs n m hnode
  exact .pure ⟨h.nodes.typed n m _ _ _ _ hnode htype hdocs,
    fun _ _ hdocs => h.nodes.typed n m _ _ _ _ hnode htype hdocs⟩

theorem effectiveTypes (hs : s.Alongside p s') : s.effectiveTypes = s'.effectiveTypes := by
  unfold Schema.effectiveTypes
  rw [hs.types, isSome_eq_of_rel hs.properties, hs.const]

theorem typedOf (h : p.Holds d d') (hs : s.Alongside p s') {nodes nodes' : List Node}
    (hnodes : List.Forall₂ p.Plain nodes nodes') : p.node (s.typedOf nodes) (s'.typedOf nodes') := by
  have hitems : List.Forall₂ p.node nodes nodes' := hnodes.imp fun _ _ hnode => hnode.1
  have hunion : ∀ nullable : Bool,
      p.node (Node.dedupe { Node.composition .or
          (nodes ++ if nullable then [Node.ofType .null] else []) with docs := s.docs })
        (Node.dedupe { Node.composition .or
          (nodes' ++ if nullable then [Node.ofType .null] else []) with docs := s'.docs }) := by
    intro nullable
    refine h.nodes.dedupe _ _ _ _ _ (List.rel_append hitems ?_) hs.docs
    split
    · exact .cons (h.nodes.ofType _) .nil
    · exact .nil
  unfold Schema.typedOf
  rw [hs.nullable, hs.const]
  generalize s'.isNullable = nullable
  cases hnodes with
  | nil => exact h.nodes.typed (.ofType .null) (.ofType .null) _ _ _ _ (h.nodes.ofType _) rfl hs.docs
  | cons hnode hrest =>
    cases hrest with
    | nil =>
      cases nullable with
      | false => exact hnode.2 _ _ hs.docs
      | true => exact hunion true
    | cons _ _ => exact hunion nullable

theorem typed (h : p.Holds d d') (hn : normalize.Alongside p normalize') (hs : s.Alongside p s')
    (hl : p.location l l') :
    (s.typed normalize l).Alongside p.location p.error p.node (s'.typed normalize' l') := by
  rw [Schema.typed_eq, Schema.typed_eq, effectiveTypes hs]
  refine (Report.Alongside.traverse (S := p.Plain) (List.forall₂_same.2 fun type _ => ?_)).map
    fun _ _ hnodes => h.typedOf hs hnodes
  exact h.typeNode hn hs.toSameBody hl type

/-! ## Intersections -/

theorem tagged (h : p.Holds d d') (property tag : String) (required : Bool) :
    p.node (Node.tagged property tag required) (Node.tagged property tag required) := by
  have hvalue := h.nodes.typed (.ofType .string) (.ofType .string) (some (.string tag)) {} {} {}
    (h.nodes.ofType .string) rfl h.nodes.noDocs
  exact h.nodes.object _ _ _ _ _ (.cons ⟨rfl, hvalue⟩ .nil) .none

theorem tagOf? (h : p.Holds d d') (name : String) {r r' : Ref} (hr : p.ref r r') :
    (Schema.tagOf? d name r).Alongside p.location p.error (Option.Rel p.node)
      (Schema.tagOf? d' name r') := by
  refine (h.resolved hr).bind fun parent parent' hparent => ?_
  have hsame := h.schema parent parent' hparent
  have hdiscriminator := hsame.discriminator
  generalize parent.discriminator = discriminator at hdiscriminator ⊢
  generalize parent'.discriminator = discriminator' at hdiscriminator ⊢
  cases hdiscriminator with
  | none => exact .pure .none
  | some hx =>
    refine .pure (.some ?_)
    dsimp only
    rw [hx.propertyName, hx.tagForName, hsame.required]
    exact h.tagged _ _ _

theorem allOfBranch (h : p.Holds d d') (hn : normalize.Alongside p normalize')
    (hs : s.Alongside p s') (hl : p.location l l') (component : Option String)
    {place place' : RefOr Schema} (hplace : p.place place place') (i : Nat) :
    (s.allOfBranch d normalize component l (place, i)).Alongside p.location p.error
      (List.Forall₂ p.node) (s'.allOfBranch d' normalize' component l' (place', i)) := by
  cases hplace with
  | inline ht =>
    refine (hn _ _ _ _ (.inline ht) (h.locate hl _)).bind fun n m hnode => ?_
    rw [hs.required]
    exact .pure (.cons (h.nodes.promote n m _ hnode) .nil)
  | @ref r r' hr =>
    refine (hn _ _ _ _ (.ref hr) (h.locate hl _)).bind fun n m hnode => ?_
    have hpair : ∀ tag tag', Option.Rel p.node tag tag' →
        (pure (n :: Option.toList tag) : Report NormalizeError _).Alongside p.location p.error
          (List.Forall₂ p.node) (pure (m :: Option.toList tag')) :=
      fun _ _ htag => .pure (.cons hnode (forall₂_toList htag))
    cases component with
    | none => exact hpair none none .none
    | some name => exact (h.tagOf? name hr).bind hpair

theorem inheritedNode (h : p.Holds d d') (hn : normalize.Alongside p normalize')
    (hs : p.schema s s') (hl : p.location l l') {properties properties' : Dict Node}
    (hproperties : List.Forall₂ (Named p.node) properties properties') (name : String) :
    (s.inheritedNode d normalize l properties name).Alongside p.location p.error
      (List.Forall₂ (Named p.node)) (s'.inheritedNode d' normalize' l' properties' name) := by
  have hfound := h.inheritedProperty? hs hl name
  unfold Schema.inheritedNode
  rw [has_eq_of_named hproperties]
  split
  · exact .pure hproperties
  · generalize d.inheritedProperty? s l name = found at hfound ⊢
    generalize d'.inheritedProperty? s' l' name = found' at hfound ⊢
    cases hfound with
    | none => exact .pure hproperties
    | some hx =>
      exact (hn _ _ _ _ hx.property hx.location).bind fun _ _ hnode =>
        .pure (named_insert hproperties name hnode)

theorem takeOver (h : p.Holds d d') (hn : normalize.Alongside p normalize') (hs : p.schema s s')
    (hl : p.location l l') {properties properties' : Dict Node}
    (hproperties : List.Forall₂ (Named p.node) properties properties') (names : List String) :
    (s.takeOver d normalize l properties names).Alongside p.location p.error
      (List.Forall₂ (Named p.node)) (s'.takeOver d' normalize' l' properties' names) := by
  induction names generalizing properties properties' with
  | nil => exact .pure hproperties
  | cons name rest ih =>
    exact (h.inheritedNode hn hs hl hproperties name).bind fun _ _ hproperties => ih hproperties

theorem ownShape (h : p.Holds d d') (hn : normalize.Alongside p normalize') (hs : p.schema s s')
    (hl : p.location l l') :
    (s.ownShape d normalize l).Alongside p.location p.error (List.Forall₂ p.node)
      (s'.ownShape d' normalize' l') := by
  have hsame := h.schema s s' hs
  have hbody := hsame.toSameBody
  have hinfers : s.infersObject = s'.infersObject := by
    unfold Schema.infersObject
    rw [hsame.types, isSome_eq_of_rel hbody.properties, hbody.required]
  unfold Schema.ownShape
  rw [hinfers, hbody.required]
  split
  · refine (h.propertyNodes hn hbody hl).bind fun _ _ hdeclared => ?_
    refine (h.takeOver hn hs hl hdeclared _).bind fun _ _ hproperties => ?_
    refine (h.objectNode hn hbody hl hproperties).bind fun n m hobject => ?_
    obtain ⟨⟨hnode, _⟩, hn', hm'⟩ := hobject
    rw [hn', hm', isEmpty_eq_of_forall₂ hproperties]
    split
    · exact .pure .nil
    · exact .pure (.cons hnode .nil)
  · exact .pure .nil

theorem intersection (h : p.Holds d d') (hn : normalize.Alongside p normalize')
    (hs : p.schema s s') (hl : p.location l l') (component : Option String)
    {branches branches' : List (RefOr Schema)} (hbranches : List.Forall₂ p.place branches branches') :
    (s.intersection d normalize component l branches).Alongside p.location p.error p.node
      (s'.intersection d' normalize' component l' branches') := by
  have hsame := h.schema s s' hs
  unfold Schema.intersection
  refine (Report.Alongside.traverse (S := List.Forall₂ p.node)
    ((forall₂_zipIdx hbranches 0).imp ?_)).bind fun items items' hitems => ?_
  · rintro ⟨place, i⟩ ⟨place', _⟩ ⟨hplace, rfl⟩
    exact h.allOfBranch hn hsame hl component hplace i
  · refine (h.ownShape hn hs hl).bind fun shape shape' hshape => ?_
    have hnode := h.nodes.dedupe .and _ _ _ _ (List.rel_append (List.rel_flatten hitems) hshape) hsame.docs
    rw [hsame.nullable]
    split
    · exact .pure (h.nodes.orNull _ _ hnode)
    · exact .pure hnode

/-! ## Unions -/

theorem alternative (h : p.Holds d d') (hs : s.Alongside p s') {place place' : RefOr Schema}
    (hplace : p.place place place') {n m : Node} (hnode : p.node n m) :
    p.node (s.alternative place n) (s'.alternative place' m) := by
  have hdiscriminator := hs.discriminator
  unfold Schema.alternative
  generalize s.discriminator = discriminator at hdiscriminator ⊢
  generalize s'.discriminator = discriminator' at hdiscriminator ⊢
  cases hdiscriminator with
  | none => exact hnode
  | some hx =>
    cases hplace with
    | inline _ => exact hnode
    | ref hr =>
      dsimp only
      rw [hx.propertyName, hx.tagForRef _ _ hr]
      exact h.nodes.combined none (some .and) _ _ _ _ (.inr rfl)
        (.cons (h.tagged _ _ _) (.cons hnode .nil)) h.nodes.noDocs

theorem members (h : p.Holds d d') (kind : Schema.UnionKind) {n m : Node} (hnode : p.node n m) :
    List.Forall₂ p.node (kind.members n) (kind.members m) := by
  unfold Schema.UnionKind.members
  rw [h.nodes.operator n m hnode]
  split
  · exact h.nodes.items n m hnode
  · exact .cons hnode .nil

theorem unionOf (h : p.Holds d d') (hs : s.Alongside p s') {members members' : List Node}
    (hmembers : List.Forall₂ p.node members members') :
    p.node (s.unionOf members) (s'.unionOf members') := by
  unfold Schema.unionOf
  rw [hs.nullable]
  refine h.nodes.dedupe _ _ _ _ _ (List.rel_append hmembers ?_) hs.docs
  split
  · exact .cons (h.nodes.ofType _) .nil
  · exact .nil

theorem union (h : p.Holds d d') (hn : normalize.Alongside p normalize') (hs : s.Alongside p s')
    (hl : p.location l l') (kind : Schema.UnionKind) {branches branches' : List (RefOr Schema)}
    (hbranches : List.Forall₂ p.place branches branches') :
    (s.union normalize kind l branches).Alongside p.location p.error p.node
      (s'.union normalize' kind l' branches') := by
  unfold Schema.union
  refine (Report.Alongside.traverse (S := List.Forall₂ p.node)
    ((forall₂_zipIdx hbranches 0).imp ?_)).bind fun items items' hitems => ?_
  · rintro ⟨place, i⟩ ⟨place', _⟩ ⟨hplace, rfl⟩
    exact (hn place place' _ _ hplace (h.locate hl _)).bind fun _ _ hnode =>
      .pure (h.members kind (h.alternative hs hplace hnode))
  · have hnode := h.unionOf hs (List.rel_flatten hitems)
    dsimp only
    rw [isSome_eq_of_rel hs.properties]
    split
    · refine (h.propertyNodes hn hs.toSameBody hl).bind fun _ _ hproperties => ?_
      refine (h.objectNode hn hs.toSameBody hl hproperties).bind fun n m hobject => ?_
      obtain ⟨⟨hshape, _⟩, hn', hm'⟩ := hobject
      rw [hn', hm', isEmpty_eq_of_forall₂ hproperties]
      split
      · exact .pure hnode
      · exact .pure (h.nodes.combined none (some .and) _ _ _ _ (.inr rfl)
          (.cons hnode (.cons hshape .nil)) h.nodes.noDocs)
    · exact .pure hnode

/-! ## Layers -/

theorem form (hs : s.Alongside p s') : s.form.Alongside p.place s'.form := by
  have hallOf := hs.allOf
  have hanyOf := hs.anyOf
  have honeOf := hs.oneOf
  unfold Schema.form
  rw [hs.enum, hs.types, isSome_eq_of_rel hs.properties, hs.const]
  generalize s.allOf = allOf at hallOf ⊢
  generalize s'.allOf = allOf' at hallOf ⊢
  generalize s.anyOf = anyOf at hanyOf ⊢
  generalize s'.anyOf = anyOf' at hanyOf ⊢
  generalize s.oneOf = oneOf at honeOf ⊢
  generalize s'.oneOf = oneOf' at honeOf ⊢
  cases s'.enum with
  | some values => exact .enum values
  | none =>
    cases hallOf with
    | some hbranches => exact .allOf hbranches
    | none =>
      cases hanyOf with
      | some hbranches => exact .anyOf hbranches
      | none =>
        cases honeOf with
        | some hbranches => exact .oneOf hbranches
        | none =>
          dsimp only
          split
          · exact .typed
          · exact .untyped

theorem untyped (h : p.Holds d d') (hs : s.Alongside p s') : p.node s.untyped s'.untyped := by
  unfold Schema.untyped
  rw [hs.constraints]
  exact h.nodes.typed (.ofType .unknown) (.ofType .unknown) none _ _ _ (h.nodes.ofType _) rfl hs.docs

theorem normalizeLayer (h : p.Holds d d') (hn : normalize.Alongside p normalize')
    (hs : p.schema s s') (hl : p.location l l') (component : Option String) :
    (s.normalizeLayer d normalize component l).Alongside p.location p.error p.node
      (s'.normalizeLayer d' normalize' component l') := by
  have hsame := h.schema s s' hs
  have hform := form hsame
  unfold Schema.normalizeLayer
  generalize s.form = form at hform ⊢
  generalize s'.form = form' at hform ⊢
  cases hform with
  | enum values => exact h.enumeration hsame hl values
  | allOf hbranches => exact h.intersection hn hs hl component hbranches
  | anyOf hbranches => exact h.union hn hsame hl _ hbranches
  | oneOf hbranches => exact h.union hn hsame hl _ hbranches
  | typed => exact h.typed hn hsame hl
  | untyped => exact .pure (h.untyped hsame)

/-! ## Whole schemas -/

theorem referenceNode (h : p.Holds d d') {r r' : Ref} (hr : p.ref r r') :
    (d.referenceNode r).Alongside p.location p.error p.node (d'.referenceNode r') := by
  refine (h.resolved hr).bind fun _ _ _ => .pure ?_
  rw [h.normalized r r' hr]
  exact h.nodes.ofReference _

/-- Corresponding schemas are normalized alongside within any number of steps. -/
theorem normalizeWithin (h : p.Holds d d') (steps : Nat) (component : Option String) :
    Normalizer.Alongside p (d.normalizeWithin steps component)
      (d'.normalizeWithin steps component) := by
  induction steps generalizing component with
  | zero =>
    intro place place' l l' hplace hl
    cases hplace with
    | ref hr =>
      rw [Document.normalizeWithin, Document.normalizeWithin]
      exact h.referenceNode hr
    | inline hs => exact .fail h.endless
  | succ steps ih =>
    intro place place' l l' hplace hl
    cases hplace with
    | ref hr =>
      rw [Document.normalizeWithin, Document.normalizeWithin]
      exact h.referenceNode hr
    | inline hs =>
      rw [Document.normalizeWithin, Document.normalizeWithin]
      exact h.normalizeLayer (ih none) hs hl component

variable {place place' : RefOr Schema}

theorem normalizeSchema (h : p.Holds d d') (hplace : p.place place place')
    (hsteps : d.stepsFor place = d'.stepsFor place') (hl : p.location l l') :
    (d.normalizeSchema place l).Alongside p.location p.error p.node
      (d'.normalizeSchema place' l') := by
  unfold Document.normalizeSchema
  rw [hsteps]
  exact h.normalizeWithin _ none place place' l l' hplace hl

theorem normalizeComponent (h : p.Holds d d') (name : String) (hplace : p.place place place')
    (hsteps : d.stepsFor place = d'.stepsFor place') (hl : p.location l l') :
    (d.normalizeComponent name place l).Alongside p.location p.error p.node
      (d'.normalizeComponent name place' l') := by
  unfold Document.normalizeComponent
  rw [hsteps]
  exact h.normalizeWithin _ (some name) place place' l l' hplace hl

end Holds

end Pairing

end ApiShape
