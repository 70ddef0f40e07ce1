import Signpost.Files.Tree
import Signpost.Session
import Signpost.Value.Shape

/-! Sessions that are kept in a file between runs. -/

namespace Signpost.Session

inductive FileProblem where
  | unreadable (path : String) (error : FileError)
  | malformed (path : String)
deriving DecidableEq, Repr, Inhabited

def FileProblem.chain : FileProblem → List String
  | unreadable path error => ["read session " ++ path, error.message]
  | malformed path => ["parse session " ++ path, "not a saved session"]

def savedShape : Value.Shape :=
  .record [("current_path", .any), ("current_block", .any), ("scope", .any), ("breadcrumbs", .any),
    ("history", .list (.record [("location", .any), ("context", .any), ("ts", .any)]))]

def load (tree : FileTree) (path : String) (mode : Mode) : Except FileProblem (Option Session) :=
  if !tree.has path then .ok none
  else match tree.readText path with
    | .error e => .error (.unreadable path e)
    | .ok text =>
        match (Value.readShaped? savedShape text).bind (ofValue? mode) with
        | some session => .ok (some session)
        | none => .error (.malformed path)

def fileText (session : Session) : String := session.toValue.indented ++ "\n"

/-- Saves a session in one step. Also returns the tree as it is left after a fault. -/
def save (session : Session) (tree : FileTree) (path : String) : Option FileFault × FileTree :=
  tree.writeAtomic path session.fileText

end Signpost.Session
