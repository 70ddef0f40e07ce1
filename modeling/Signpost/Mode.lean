import Signpost.Key

/-! How input is awaited, and what the marks of a key ask for once its command has run. -/

namespace Signpost

/-- In blocking mode menus wait for a line of input; in non-blocking mode they are left pending and
answered by a later call. -/
inductive Mode where
  | blocking
  | nonBlocking
deriving DecidableEq, Repr, Inhabited

def Mode.name : Mode → String
  | blocking => "blocking"
  | nonBlocking => "non_blocking"

def Mode.ofName? : String → Option Mode
  | "blocking" => some .blocking
  | "non_blocking" => some .nonBlocking
  | _ => none

/-- The marks of a launched key together with the mode it was launched in. -/
structure FollowUp where
  decorations : Decorations
  mode : Mode
deriving DecidableEq, Repr, Inhabited

namespace FollowUp

def plain (mode : Mode) : FollowUp := ⟨{}, mode⟩

def autoReturn (f : FollowUp) : Bool := f.decorations.autoReturn

def anchor (f : FollowUp) : Bool := f.decorations.anchor

def autoMenu (f : FollowUp) : Bool := f.decorations.autoMenu

def required (f : FollowUp) : Bool := f.decorations.required

/-- An anchored key offers no way back from its menu. -/
def allowsBack (f : FollowUp) : Bool := !f.anchor

def ofKey (mode : Mode) (key : String) : String × FollowUp :=
  let (bare, decorations) := Key.read key
  (bare, ⟨decorations, mode⟩)

end FollowUp

end Signpost
