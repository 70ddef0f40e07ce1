import Signpost.Session
import Signpost.Template.Evaluation

/-! Displayed text that refers to the session.

A text with template marks may use the variables `user`, `roles`, `path`, `block` and `scope`. A
template that cannot be rendered is shown as it is written. -/

namespace Signpost.Template

def Datum.ofText? : Option String → Datum
  | some value => .ofText value
  | none => .null

def sessionBindings (session : Session) : Bindings :=
  [("user", .ofText? session.identity.user),
    ("roles", .ofItems (session.identity.roles.map .ofText)),
    ("path", .ofText? session.path), ("block", .ofText? session.block),
    ("scope", .ofText session.scope)]

def hasMarks (text : List Char) : Bool :=
  Text.occurs ['{', '{'] text || Text.occurs ['{', '%'] text

def renderDisplay (session : Session) (text : String) : String :=
  if hasMarks text.toList then
    match renderText text (sessionBindings session) with
    | .ok rendered => rendered
    | .error _ => text
  else text

end Signpost.Template
