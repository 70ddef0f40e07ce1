import Signpost.Files.Tree
import Signpost.Outcome

/-! Text files of a project, named by paths that stay within it. -/

namespace Signpost.Resource

/-- A target within the project: it is relative, and no part of it leads upwards. -/
def isInside (target : String) : Bool :=
  !Path.isAbsolute target && (Path.parts target).all (· != "..")

def read (root : String) (tree : FileTree) : Value → Except FileFault Reply
  | .str target =>
      if !isInside target then
        .ok (.failed ("resource '" ++ target ++ "' is outside the project"))
      else
        let path := Path.join root target
        if !tree.isFile path then .ok (.failed ("resource '" ++ target ++ "' not found"))
        else match tree.readText path with
          | .ok text => .ok (.ok (.str text))
          | .error e => .error (.read path e)
  | _ => .ok (.failed "resource target must be a string")

end Signpost.Resource
