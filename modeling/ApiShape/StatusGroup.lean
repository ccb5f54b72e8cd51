/-!
# Groups of response codes

A response is filed under a status code, a range such as `4XX`, or `default`.
-/

namespace ApiShape

/-- What responses under a code mean. -/
inductive StatusGroup where
  | informational
  | success
  | redirection
  | clientError
  | serverError
  | default
  deriving DecidableEq, Repr

namespace StatusGroup

/-- The group of a code, which goes by its first digit. -/
def ofCode? (code : String) : Option StatusGroup :=
  if code = "default" then some .default
  else
    match code.toList with
    | '1' :: _ => some .informational
    | '2' :: _ => some .success
    | '3' :: _ => some .redirection
    | '4' :: _ => some .clientError
    | '5' :: _ => some .serverError
    | _ => none

end StatusGroup

end ApiShape
