import ApiShape.Json.Basic
import ApiShape.Pointer.Resolve

/-!
# Pointers into JSON values

The fields of an object go by name and the items of an array by position; any other value is a
scalar without parts.
-/

namespace ApiShape

instance : Pointee Json where
  view
    | .object fields => .keyed fields
    | .array items => .indexed items
    | _ => .leaf "scalar"

end ApiShape
