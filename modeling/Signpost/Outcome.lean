import Signpost.Location
import Signpost.Menu.Basic
import Signpost.Mode

/-! What a command comes to, what collaborators reply, and what is shown.

An outcome that is neither empty nor done interrupts the sequence it belongs to. -/

namespace Signpost

inductive ErrorKind where
  | configuration
  | notFound
  | permissionDenied
  | validation
  | action
deriving DecidableEq, Repr, Inhabited

def ErrorKind.name : ErrorKind → String
  | configuration => "configuration"
  | notFound => "not_found"
  | permissionDenied => "permission_denied"
  | validation => "validation"
  | action => "action"

structure Failure where
  kind : ErrorKind
  message : String
deriving DecidableEq, Repr, Inhabited

/-- A menu that waits for an answer, with the bare key that opened it. -/
structure Prompt where
  key : String
  view : Menu.View
deriving DecidableEq, Repr, Inhabited

inductive Outcome where
  /-- Nothing to report. -/
  | empty
  | done (value : Value)
  /-- The action or the input was refused; the session goes on. -/
  | failed (failure : Failure)
  /-- Return to the caller. -/
  | back
  /-- Leave a menu or a required action on purpose. -/
  | abort
  | pending (prompt : Prompt)
  | relocated (location : Location)
deriving Repr, Inhabited

namespace Outcome

/-- A finished action; null is nothing to report. -/
def ofValue : Value → Outcome
  | .null => empty
  | value => done value

def refused (kind : ErrorKind) (message : String) : Outcome := failed ⟨kind, message⟩

def isFailure : Outcome → Bool
  | failed _ => true
  | _ => false

def interrupts : Outcome → Bool
  | empty | done _ => false
  | _ => true

end Outcome

/-- Applies the auto-return mark: in blocking mode a finished action becomes a step back, while
aborts, failures and open menus stay. In non-blocking mode the client navigates. -/
def FollowUp.finish (f : FollowUp) (outcome : Outcome) : Outcome :=
  if f.autoReturn then
    match outcome with
    | .abort | .failed _ | .pending _ => outcome
    | other => match f.mode with
      | .blocking => .back
      | .nonBlocking => other
  else outcome

inductive Reply where
  | ok (value : Value)
  | failed (message : String)
  | abort
deriving Repr, Inhabited

inductive Payload where
  | text (text : String)
  | table (rows : List Value)
  | structured (value : Value)
  /-- A message of the engine itself. -/
  | message (text : String)
deriving Repr, Inhabited

namespace Payload

/-- Text is shown as text, a list of records as a table, and anything else as it is. -/
def ofValue : Value → Payload
  | .str s => text s
  | .arr rows => if !rows.isEmpty && rows.all Value.isRecord then table rows else structured (.arr rows)
  | value => structured value

def toValue : Payload → Value
  | text s => .obj [("kind", .str "text"), ("body", .str s)]
  | table rows => .obj [("kind", .str "table"), ("body", .arr rows)]
  | structured value => .obj [("kind", .str "structured"), ("body", value)]
  | message s => .obj [("kind", .str "message"), ("body", .str s)]

end Payload

def Failure.toValue (failure : Failure) : Value :=
  .obj [("kind", .str failure.kind.name), ("message", .str failure.message)]

def Prompt.toValue (prompt : Prompt) : Value :=
  .obj [("key", .str prompt.key), ("view", prompt.view.toValue)]

def Outcome.toValue : Outcome → Value
  | empty => .obj [("status", .str "empty")]
  | done value => .obj [("status", .str "done"), ("value", value)]
  | failed failure => .obj [("status", .str "failed"), ("error", failure.toValue)]
  | back => .obj [("status", .str "back")]
  | abort => .obj [("status", .str "abort")]
  | pending prompt => .obj [("status", .str "pending"), ("prompt", prompt.toValue)]
  | relocated location =>
      .obj [("status", .str "relocated"), ("location", .str location.text)]

def Reply.toValue : Reply → Value
  | ok value => .obj [("reply", .str "ok"), ("value", value)]
  | failed message => .obj [("reply", .str "failed"), ("value", .str message)]
  | abort => .obj [("reply", .str "abort")]

end Signpost
