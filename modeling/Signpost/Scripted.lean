import Signpost.Host

/-! A host whose answers are written down beforehand.

Documents, permissions, input lines and replies are all given; each reply is used once, and the last
one of a name again and again. Nothing else is remembered, for the log of the navigation says what
was asked. -/

namespace Signpost

structure Script where
  /-- The documents by their paths; other paths are not found. -/
  documents : List (String × Except LoadError Document) := []
  /-- The predicates that hold. -/
  granted : List String := []
  /-- The lines of input. -/
  lines : List String := []
  /-- The replies of a collaborator to a name, or the reasons why it cannot reply. -/
  replies : List ((Collaborator × String) × List (Except String Reply)) := []

namespace Script

def putDocument (script : Script) (path : String) (document : Except LoadError Document) : Script :=
  { script with documents := (path, document) :: script.documents.filter (·.1 != path) }

def dropDocument (script : Script) (path : String) : Script :=
  { script with documents := script.documents.filter (·.1 != path) }

def load (path : String) : StateM Script (Except LoadError Document) := fun script =>
  ((script.documents.lookup path).getD (.error (.notFound path)), script)

def check (predicate : String) : StateM Script Bool := fun script =>
  (script.granted.contains predicate, script)

def prompt : StateM Script (Option String) := fun script =>
  (script.lines.head?, { script with lines := script.lines.tail })

/-- The next reply of a queue, and the queue that is left; the last reply stays. -/
def nextReply : List (Except String Reply) → Except String Reply × List (Except String Reply)
  | [] => (.ok (.ok .null), [])
  | [reply] => (reply, [reply])
  | reply :: rest => (reply, rest)

def take (collaborator : Collaborator) (name : String) :
    List ((Collaborator × String) × List (Except String Reply)) →
      Except String Reply × List ((Collaborator × String) × List (Except String Reply))
  | [] => (.ok (.ok .null), [])
  | (key, queue) :: rest =>
      if key = (collaborator, name) then
        let (reply, queue) := nextReply queue
        (reply, (key, queue) :: rest)
      else
        let (reply, rest) := take collaborator name rest
        (reply, (key, queue) :: rest)

def invoke (request : Request) : StateM Script Answer := fun script =>
  let (reply, replies) := take request.collaborator request.name script.replies
  (⟨reply, []⟩, { script with replies := replies })

/-- The host that follows its script. Its clock stands still. -/
def host : Host Script where
  load := load
  check predicate _ := check predicate
  render _ := return ()
  display _ := return ()
  prompt _ := prompt
  invoke request _ := invoke request
  now _ := .epoch

end Script

end Signpost
