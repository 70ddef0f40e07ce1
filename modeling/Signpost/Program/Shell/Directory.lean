import Signpost.Program.Paths
import Signpost.Program.Shell.Process

/-! The commands `cd` and `pwd`.

A path is followed by its text: a step up takes away the last name, wherever that leads. -/

namespace Signpost.Program.Shell

namespace Directory

def leading (path : List Char) : List Char :=
  match path with
  | '/' :: '/' :: '/' :: _ => ['/']
  | '/' :: '/' :: _ => ['/', '/']
  | '/' :: _ => ['/']
  | _ => []

/-- The directory that a path means in the current one. `isFull` tells that it does not depend on it. -/
def resolved (isFull : Bool) (current path : String) : String :=
  let start := leading (if isFull then path.toList else current.toList)
  let parts := if isFull then Path.parts path else Path.parts current ++ Path.parts path
  let text := String.ofList start ++ Text.join "/" (settled parts)
  if text.isEmpty then "/" else text

def isFixed (path : String) : Bool :=
  match path.toList with
  | '/' :: _ | ['.'] | '.' :: '/' :: _ | ['.', '.'] | '.' :: '.' :: '/' :: _ => true
  | _ => false

def within (directory path : String) : String :=
  if directory.isEmpty then path else directory ++ "/" ++ path

def sought (s : State) (places : List String) (path : String) : String × Bool :=
  match places.find? fun place => match s.find (within place path) with
      | .ok (.directory _) => true
      | _ => false with
  | some place => (within place path, !place.isEmpty)
  | none => (path, false)

end Directory

def changeDirectory (arguments : List String) : Running Nat := do
  let given ← optionsOf (plainLetters "LP") arguments
  let p ← get
  let text (name : String) : String := p.bindings.text name
  let back := given.operands.head? = some "-"
  let target := if back then text "OLDPWD" else given.operands.head?.getD (text "HOME")
  let (path, shown) :=
    if Directory.isFixed target then (target, false)
    else
      Directory.sought p.state ((text "CDPATH").splitOn ":")
        (if target.isEmpty then "." else target)
  let isFull := path.startsWith "/" || p.state.world.tree.isAt (Text.ofRaw path)
  let next := Directory.resolved isFull (Text.toRaw p.state.directory) path
  match p.state.find next with
  | .ok (.directory _) =>
      let bindings := (p.bindings.assign "OLDPWD" (some (Text.toRaw p.state.directory))).assign
        "PWD" (some next)
      let exported (v : Variable) : Variable := { v with exported := true }
      set { p with
        state := { p.state with directory := Text.ofRaw next }
        bindings := (bindings.mark "OLDPWD" exported).mark "PWD" exported }
      if back || shown then emit (next ++ "\n")
      return 0
  | _ => fail ("can't cd to " ++ target)

def printDirectory (arguments : List String) : Running Nat := do
  let _ ← optionsOf (plainLetters "LP") arguments
  emit (Text.toRaw (← get).state.directory ++ "\n")
  return 0

end Signpost.Program.Shell
