import Signpost.Session

/-! Permissions by role.

A predicate is `public`, `authenticated`, or a list of roles of which any one suffices. A role may
be written with `role:` before it. -/

namespace Signpost.Authorizer

def roleOf (entry : List Char) : List Char :=
  let entry := Text.trimChars entry
  Text.trimChars ((Text.dropStart? "role:".toList entry).getD entry)

def rolesOf (predicate : List Char) : List String :=
  (((Text.fields ',' predicate).map roleOf).filter fun role => !role.isEmpty).map String.ofList

def grants (predicate : String) (identity : Identity) : Bool :=
  let predicate := Text.trim predicate
  if predicate = "" || predicate = "public" then true
  else if predicate = "authenticated" then identity.isAuthenticated
  else (rolesOf predicate.toList).any identity.hasRole

end Signpost.Authorizer
