import ApiShape.Model.Basic

/-!
# Dependencies between named schemas

A named schema depends on another if a node at any depth in it refers to the other. The schemas that
depend on themselves, directly or through others, are recursive. A reference can be replaced by its
target, except where the target is being inlined already, so that recursive schemas stay finite.
-/

namespace ApiShape

namespace Node

mutual

/-- The names of the components that the node refers to, at any depth. -/
def componentNames : Node → List String
  | ⟨reference, type, items, operator, properties, required, additional, const, docs,
      constraints⟩ =>
    (componentName? ⟨reference, type, items, operator, properties, required, additional, const,
      docs, constraints⟩).toList ++
      itemComponentNames items ++ propertyComponentNames properties ++
      additionalComponentNames additional

/-- The names of the components that items refer to. -/
def itemComponentNames : List Node → List String
  | [] => []
  | n :: rest => componentNames n ++ itemComponentNames rest

/-- The names of the components that properties refer to. -/
def propertyComponentNames : List (String × Node) → List String
  | [] => []
  | (_, n) :: rest => componentNames n ++ propertyComponentNames rest

/-- The names of the components that additional properties refer to. -/
def additionalComponentNames : Option Node → List String
  | none => []
  | some n => componentNames n

end

/-- The documentation of a reference, with what it lacks taken from the target. -/
def mergeDocs (docs target : Docs) : Docs :=
  { docs.inherit target with default := docs.default <|> target.default }

mutual

/-- Replaces the references in a node by what `target?` gives for their names, with documentation
merged. What stands inside a reference is left alone. -/
def expandWith (target? : String → Option Node) : Node → Node
  | ⟨reference, type, items, operator, properties, required, additional, const, docs,
      constraints⟩ =>
    match reference with
    | some r =>
      let n : Node :=
        ⟨some r, type, items, operator, properties, required, additional, const, docs, constraints⟩
      match n.componentName?.bind target? with
      | some target => { target with docs := mergeDocs docs target.docs }
      | none => n
    | none =>
      ⟨none, type, expandItems target? items, operator, expandProperties target? properties,
        required, expandOption target? additional, const, docs, constraints⟩

/-- Replaces the references in items. -/
def expandItems (target? : String → Option Node) : List Node → List Node
  | [] => []
  | n :: rest => expandWith target? n :: expandItems target? rest

/-- Replaces the references in properties. -/
def expandProperties (target? : String → Option Node) :
    List (String × Node) → List (String × Node)
  | [] => []
  | (name, n) :: rest => (name, expandWith target? n) :: expandProperties target? rest

/-- Replaces the references in additional properties. -/
def expandOption (target? : String → Option Node) : Option Node → Option Node
  | none => none
  | some n => some (expandWith target? n)

end

end Node

/-- The named schemas of a document, and which refers to which. -/
structure Graph where
  schemas : Dict Node

namespace Graph

/-- The graph of a normalized document. -/
def ofModel (m : Model) : Graph :=
  ⟨m.schemas⟩

/-- The names of the schemas that a schema refers to, each once. -/
def dependencies (g : Graph) (name : String) : List String :=
  match g.schemas.get? name with
  | none => []
  | some n => (n.componentNames.filter g.schemas.has).eraseDups

/-- The names of the schemas that refer to a schema. -/
def dependents (g : Graph) (name : String) : List String :=
  g.schemas.keys.filter fun other => (g.dependencies other).contains name

/-- Which schema refers to which. -/
def edges (g : Graph) : List (String × String) :=
  g.schemas.keys.flatMap fun name => (g.dependencies name).map (name, ·)

/-- The edges, with those added that lead through `via`. -/
def through (edges : List (String × String)) (via : String) : List (String × String) :=
  let into := (edges.filter (·.2 = via)).map (·.1)
  let out := (edges.filter (·.1 = via)).map (·.2)
  (edges ++ into.flatMap fun a => out.map (a, ·)).eraseDups

/-- Which schema leads to which, in one or more steps. -/
def reach (g : Graph) : List (String × String) :=
  g.schemas.keys.foldl through g.edges

/-- The schema refers back to itself, directly or through others. -/
def isRecursive (g : Graph) (name : String) : Bool :=
  g.reach.contains (name, name)

/-- A node with its references replaced by their targets, on and on. The names on the path are
those of the schemas being inlined around the node; what they stand for is not inlined again.
The steps bound how many more names can join the path. -/
def expand (g : Graph) : (steps : Nat) → (path : List String) → Node → Node
  | 0, _ => id
  | steps + 1, path =>
    Node.expandWith fun name =>
      if path.contains name then none
      else (g.schemas.get? name).map (g.expand steps (name :: path))

/-- A schema with its references replaced by their targets. -/
def inline (g : Graph) (name : String) : Option Node :=
  (g.schemas.get? name).map (g.expand g.schemas.length [name])

end Graph

end ApiShape
