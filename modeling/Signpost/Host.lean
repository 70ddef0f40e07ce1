import Signpost.DispatchError
import Signpost.Document
import Signpost.Session

/-! What navigation asks of the world around it.

A host answers every request from a state of its own, `World`, so a statement about all hosts is a
statement about every behaviour of the collaborators. Each request leaves an event. -/

namespace Signpost

inductive Collaborator where
  | functions
  | workflows
  | data
  | dialogs
  | resources
deriving DecidableEq, Repr, Inhabited

def Collaborator.name : Collaborator → String
  | functions => "functions"
  | workflows => "workflows"
  | data => "data"
  | dialogs => "dialogs"
  | resources => "resources"

structure Request where
  collaborator : Collaborator
  name : String
  args : Value
deriving Repr, Inhabited

inductive Talk where
  | rendered (view : Menu.View)
  | shown (payload : Payload)
  | prompted (message : String) (answer : Option String)
deriving Repr, Inhabited

/-- What an action came to: a reply or the reason why it could not run, and the exchanges with the
user that it had meanwhile. -/
structure Answer where
  reply : Except String Reply
  talk : List Talk := []

structure Step where
  key : String
  location : Location
  result : Except DispatchError Outcome

inductive Event where
  | loaded (path : String)
  | checked (predicate : String) (granted : Bool)
  | talked (talk : Talk)
  | invoked (request : Request) (location : Option Location) (talk : List Talk)
  | stepped (step : Step)

structure Host (World : Type) where
  load : String → StateM World (Except LoadError Document)
  check : String → Identity → StateM World Bool
  render : Menu.View → StateM World Unit
  display : Payload → StateM World Unit
  /-- The next line of input, if there is one. -/
  prompt : String → StateM World (Option String)
  invoke : Request → Session → StateM World Answer
  now : World → Timestamp

end Signpost
