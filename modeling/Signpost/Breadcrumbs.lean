import Signpost.Location
import Signpost.Value.Basic

/-! Trails of visited locations, one for each scope.

The scopes are kept in order. A location is never pushed twice in a row, and going back within one
scope does not touch the others. -/

namespace Signpost

/-- Visited locations, oldest first. -/
abbrev Trail := List Location

structure Breadcrumbs where
  trails : List (String × Trail) := []
deriving DecidableEq, Repr, Inhabited

namespace Breadcrumbs

def trail (b : Breadcrumbs) (scope : String) : Trail := (b.trails.lookup scope).getD []

def tail? (b : Breadcrumbs) (scope : String) : Option Location := (b.trail scope).getLast?

def scopes (b : Breadcrumbs) : List String := b.trails.map (·.1)

def setIn : List (String × Trail) → String → Trail → List (String × Trail)
  | [], scope, trail => [(scope, trail)]
  | (other, old) :: rest, scope, trail =>
      if other = scope then (scope, trail) :: rest
      else if scope < other then (scope, trail) :: (other, old) :: rest
      else (other, old) :: setIn rest scope trail

def set (b : Breadcrumbs) (scope : String) (trail : Trail) : Breadcrumbs :=
  ⟨setIn b.trails scope trail⟩

/-- Appends a location unless it is the last one already, and tells whether it was appended. -/
def push (b : Breadcrumbs) (scope : String) (location : Location) : Bool × Breadcrumbs :=
  if b.tail? scope = some location then (false, b)
  else (true, b.set scope (b.trail scope ++ [location]))

def back (b : Breadcrumbs) (scope : String) : Option Location × Breadcrumbs :=
  match b.trails.lookup scope with
  | none => (none, b)
  | some trail => (trail.dropLast.getLast?, b.set scope trail.dropLast)

def teardown (b : Breadcrumbs) (scope : String) : Option Trail × Breadcrumbs :=
  (b.trails.lookup scope, ⟨b.trails.filter fun (other, _) => other != scope⟩)

def toValue (b : Breadcrumbs) : Value :=
  .obj (b.trails.map fun (scope, trail) =>
    (scope, .arr (trail.map fun location => .str location.text)))

def locationOf? : Value → Option Location
  | .str text => (Location.read text).toOption
  | _ => none

def ofValue? : Value → Option Breadcrumbs
  | .obj fields =>
      (fields.foldlM fun (b : Breadcrumbs) (scope, value) =>
        match value with
        | .arr items => (items.mapM locationOf?).map (b.set scope)
        | _ => none) ⟨[]⟩
  | _ => none

end Breadcrumbs

end Signpost
