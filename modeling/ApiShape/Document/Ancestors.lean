import ApiShape.Document.Resolve

/-!
# Ancestors

The ancestors of a schema are the schemas of its `allOf` branches and their ancestors in turn, depth
first and in the order of the branches. A reference is expanded the first time that its text is met;
one that does not resolve is skipped. So even a hierarchy that loops has finitely many ancestors.
-/

namespace ApiShape

/-- A branch of a schema, and where it lies. -/
structure Branch where
  place : RefOr Schema
  location : String

/-- An ancestor of a schema, and where it lies: at the target of a reference, or at the branch. -/
structure Ancestor where
  schema : Schema
  location : String

namespace Schema

/-- Branches that lie one after the other from a position on. -/
def branchesFrom (location : String) : (position : Nat) → List (RefOr Schema) → List Branch
  | _, [] => []
  | i, place :: rest =>
    ⟨place, location ++ "/allOf/" ++ toString i⟩ :: branchesFrom location (i + 1) rest

/-- The branches of a schema that lies at a location. -/
def branches (s : Schema) (location : String) : List Branch :=
  branchesFrom location 0 (s.allOf.getD [])

end Schema

namespace Document

/-- How much there is to do for some branches, references left out. -/
noncomputable def work : List Branch → Nat
  | [] => 0
  | b :: rest => sizeOf b.place + 1 + work rest

theorem work_append (a b : List Branch) : work (a ++ b) = work a + work b := by
  induction a with
  | nil => simp [work]
  | cons x xs ih => simp only [List.cons_append, work, ih]; omega

theorem work_branchesFrom (location : String) (i : Nat) (places : List (RefOr Schema)) :
    work (Schema.branchesFrom location i places) < sizeOf places := by
  induction places generalizing i with
  | nil => simp [Schema.branchesFrom, work]
  | cons place rest ih =>
    have := ih (i + 1)
    simp only [Schema.branchesFrom, work, List.cons.sizeOf_spec]
    omega

theorem work_branches (s : Schema) (location : String) :
    work (s.branches location) < sizeOf s := by
  have h := work_branchesFrom location 0 (s.allOf.getD [])
  have hs : sizeOf (s.allOf.getD []) ≤ sizeOf s := by
    obtain ⟨⟩ := s
    rename_i allOf _ _ _ _
    cases allOf <;> simp only [Option.getD_none, Option.getD_some, Schema.mk.sizeOf_spec,
      Option.none.sizeOf_spec, Option.some.sizeOf_spec, List.nil.sizeOf_spec] <;> omega
  exact Nat.lt_of_lt_of_le h hs

/-- Where the target of a reference lies. -/
def locationOf (r : Ref) (otherwise : String) : String :=
  match r.pointer with
  | .ok p => "#" ++ p.text
  | .error _ => otherwise

/-- The ancestors that come from some branches, where only the references with the given texts have
not been met. -/
def visit (d : Document) (unmet : List String) (stack : List Branch) : List Ancestor :=
  match stack with
  | [] => []
  | ⟨.inline s, location⟩ :: rest =>
    ⟨s, location⟩ :: visit d unmet (s.branches location ++ rest)
  | ⟨.ref r, location⟩ :: rest =>
    if _h : r.text ∈ unmet then
      match d.resolve Schema r with
      | .error _ => visit d (without unmet r.text) rest
      | .ok s =>
        let location := locationOf r location
        ⟨s, location⟩ :: visit d (without unmet r.text) (s.branches location ++ rest)
    else visit d unmet rest
termination_by (unmet.length, work stack)
decreasing_by
  · have := work_branches s location
    apply Prod.Lex.right
    simp only [work_append, work, RefOr.inline.sizeOf_spec]
    omega
  · apply Prod.Lex.left
    exact length_without_lt _h
  · apply Prod.Lex.left
    exact length_without_lt _h
  · apply Prod.Lex.right
    simp only [work]
    omega

/-- The ancestors of a schema that lies at a location. -/
def ancestors (d : Document) (s : Schema) (location : String) : List Ancestor :=
  let texts := (Schema.references (.inline s) ++ d.references).map (·.text)
  visit d texts (s.branches location)

/-- A property that a schema may take over, and where it lies. -/
structure Inherited where
  property : RefOr Schema
  location : String

/-- The property of a name that the first ancestor that declares it declares. -/
def inheritedProperty? (d : Document) (s : Schema) (location name : String) : Option Inherited :=
  (d.ancestors s location).findSome? fun a =>
    (a.schema.property? name).map fun property =>
      ⟨property, a.location ++ "/properties/" ++ Pointer.escape name⟩

end Document

end ApiShape
