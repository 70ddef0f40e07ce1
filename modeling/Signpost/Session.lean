import Signpost.Breadcrumbs
import Signpost.Command.Basic
import Signpost.History
import Signpost.Outcome

/-! The navigation state of one user.

The saved form holds the location, the scope, the trails and the history. Pending input, the mode
and the identity belong to the running session only. -/

namespace Signpost

/-- Who navigates: a user name and a sorted set of roles. -/
structure Identity where
  user : Option String := none
  roles : List String := []
deriving DecidableEq, Repr, Inhabited

namespace Identity

def insertRole (role : String) : List String → List String
  | [] => [role]
  | other :: rest =>
      if role = other then other :: rest
      else if role < other then role :: other :: rest
      else other :: insertRole role rest

def roleSet (roles : List String) : List String :=
  roles.foldl (fun set role => insertRole role set) []

def hasRole (identity : Identity) (role : String) : Bool := identity.roles.contains role

def isAuthenticated (identity : Identity) : Bool :=
  identity.user.isSome || !identity.roles.isEmpty

end Identity

structure PendingMenu where
  key : String
  view : Menu.View
  followUp : FollowUp
deriving DecidableEq, Repr, Inhabited

def PendingMenu.prompt (pending : PendingMenu) : Prompt := ⟨pending.key, pending.view⟩

/-- A required command that has failed and will be launched again. -/
structure PendingRetry where
  key : String
  command : Command
  followUp : FollowUp
  /-- How often it has been launched so far. The counter has 32 bits; its overflow at 2 ^ 32, which stops
  the program, is left out. -/
  attempts : Nat
deriving Repr, Inhabited

/-- Work that waits for the client. -/
inductive Pending where
  | menu (pending : PendingMenu)
  | retry (pending : PendingRetry)
deriving Repr, Inhabited

structure Session where
  path : Option String := none
  block : Option String := none
  scope : String
  breadcrumbs : Breadcrumbs := {}
  history : History := {}
  pending : Option Pending := none
  mode : Mode
  identity : Identity := {}
deriving Repr, Inhabited

namespace Session

def rootScope : String := "root"

def new (mode : Mode) : Session := { scope := rootScope, mode := mode }

def location? (s : Session) : Option Location :=
  match s.path, s.block with
  | some path, some block => some ⟨path, block⟩
  | _, _ => none

def trail (s : Session) : Trail := s.breadcrumbs.trail s.scope

def moveTo (s : Session) (location : Location) (context : String) (time : Timestamp) : Session :=
  { s with
    history := s.history.record ⟨location, context, time⟩
    path := some location.path
    block := some location.block }

def relocate (s : Session) (location : Location) (context : String) (time : Timestamp) : Session :=
  { s.moveTo location context time with
    breadcrumbs := (s.breadcrumbs.push s.scope location).2 }

/-- Drops the end of the active trail and moves to the location before it, if there is one. -/
def stepBack (s : Session) (time : Timestamp) : Option Location × Session :=
  let (destination, breadcrumbs) := s.breadcrumbs.back s.scope
  let s := { s with breadcrumbs := breadcrumbs }
  match destination with
  | some location => (some location, s.moveTo location "back" time)
  | none => (none, s)

/-- Switches the active scope; the trails stay. -/
def enterScope (s : Session) (scope : String) : Session := { s with scope := scope }

/-- Removes the trail of a scope; if it was the active scope, the root scope becomes active. -/
def teardownScope (s : Session) (scope : String) : Session :=
  { s with
    breadcrumbs := (s.breadcrumbs.teardown scope).2
    scope := if s.scope = scope then rootScope else s.scope }

/-- Appends the current location to the active trail unless it is its end. -/
def checkpoint (s : Session) : Bool × Session :=
  match s.location? with
  | some location =>
      let (pushed, breadcrumbs) := s.breadcrumbs.push s.scope location
      (pushed, { s with breadcrumbs := breadcrumbs })
  | none => (false, s)

def clearPending (s : Session) : Session := { s with pending := none }

def setPending (s : Session) (pending : Pending) : Session := { s with pending := some pending }

def toValue (s : Session) : Value :=
  .obj [("current_path", .ofText? s.path), ("current_block", .ofText? s.block),
    ("scope", .str s.scope), ("breadcrumbs", s.breadcrumbs.toValue),
    ("history", s.history.toValue)]

def optionalText? (fields : Fields) (name : String) : Option (Option String) :=
  match Fields.get? fields name with
  | none | some .null => some none
  | some (.str text) => some (some text)
  | _ => none

/-- Reads the saved form. The scope is needed; trails and history may be missing. -/
def ofValue? (mode : Mode) (value : Value) : Option Session := do
  let fields ← Fields.ofShape?
    ["current_path", "current_block", "scope", "breadcrumbs", "history"] 3 value
  let path ← optionalText? fields "current_path"
  let block ← optionalText? fields "current_block"
  let scope ← Fields.text? fields "scope"
  let breadcrumbs ← match Fields.get? fields "breadcrumbs" with
    | some saved => Breadcrumbs.ofValue? saved
    | none => some {}
  let history ← match Fields.get? fields "history" with
    | some saved => History.ofValue? saved
    | none => some {}
  return { path, block, scope, breadcrumbs, history, mode }

end Session

end Signpost
