import ApiShape.Document.Schema
import ApiShape.Node.Basic

/-!
# Discriminator tags

The tag of a schema is the value of a discriminator's property that tells the schema apart: the
first one that the mapping gives to it, or else its name.
-/

namespace ApiShape

namespace Discriminator

/-- A value of the mapping, which is a reference or a name, names a schema. -/
def valueNames (value name : String) : Bool :=
  match Ref.parse value with
  | .ok r => r.schemaName? == some name
  | .error _ => value == name

/-- The tag of a named schema. -/
def tagForName (d : Discriminator) (name : String) : String :=
  match d.mapping.find? fun (_, value) => valueNames value name with
  | some (tag, _) => tag
  | none => name

/-- The tag of the target of a reference. A value that is the reference itself comes first. -/
def tagForRef (d : Discriminator) (r : Ref) : String :=
  match d.mapping.find? fun (_, value) => value == r.text with
  | some (tag, _) => tag
  | none => d.tagForName r.name

end Discriminator

namespace Node

/-- The object that has a tag as a property. -/
def tagged (property tag : String) (required : Bool) : Node :=
  { type := some .object
    properties := [(property, { type := some .string, const := some (.string tag) })]
    required := if required then [property] else [] }

end Node

end ApiShape
