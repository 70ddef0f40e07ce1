import Signpost.CommandLine
import Std.Time.DateTime.Timestamp

/-! The program on a real machine.

The files of the project are read before it runs and written back after it; what it decides is all
in `CommandLine.program`. Where it asks for a line that is not there yet, it is run again with one
line more, so the user sees each question before answering it. -/

namespace Signpost.Machine

open Project (World)

def placeOf (path : String) : List String := (Path.parts path).filter (· != "")

def pathOf (place : List String) : String := "/" ++ Text.join "/" place

def leadingTo (place : List String) : List (List String × FileNode) :=
  (List.range place.length).filterMap fun n =>
    if n = 0 then none else some (place.take n, .directory)

def addNodes (tree : FileTree) (nodes : List (List String × FileNode)) : FileTree :=
  nodes.foldl (fun tree (place, node) => tree.set place node) tree

/-- Reads a file or a directory with everything in it; what cannot be read is left out. -/
def readNodes (path : String) : IO (List (List String × FileNode)) := do
  try
    let top ← IO.FS.realPath path
    let below ← if ← top.isDir then top.walkDir else pure #[]
    let nodes ← (top :: below.toList).filterMapM fun file => do
      try
        let node ←
          if ← file.isDir then pure FileNode.directory
          else return some (placeOf file.toString, .file (← IO.FS.readBinFile file).toList)
        return some (placeOf file.toString, node)
      catch _ => return none
    return leadingTo (placeOf top.toString) ++ nodes
  catch _ => return []

/-- The files that an invocation may need: the project, the session file, and the directories that
the settings name. -/
def readFiles (invocation : CommandLine.Invocation) : IO FileTree := do
  let here ← IO.currentDir
  let start := placeOf here.toString
  let known := leadingTo start ++ [(start, .directory)]
  let empty : FileTree := { mount := "", start := start }
  let sessionFiles := match invocation.task with
    | .run _ (some file) => [(Path.parent? file).getD "", file]
    | _ => []
  let nodes ← (invocation.root :: sessionFiles.filter (!·.isEmpty)).mapM readNodes
  let tree := addNodes (addNodes empty known) nodes.flatten
  match Project.openAt tree invocation.root [] .epoch with
  | .ok project =>
      let named ← [project.config.documentsDirectory, project.config.dataDirectory].mapM readNodes
      return addNodes tree named.flatten
  | .error _ => return tree

def writeFiles (before after : FileTree) : IO Unit := do
  for (place, node) in after.nodes do
    if before.nodes.lookup place != some node then
      match node with
      | .directory => IO.FS.createDirAll (pathOf place)
      | .file content => IO.FS.writeBinFile (pathOf place) ⟨content.toArray⟩
  for (place, _) in before.nodes do
    if (after.nodes.lookup place).isNone then
      try IO.FS.removeFile (pathOf place) catch _ => pure ()

def readVariables : IO (List (String × String)) := do
  try
    let bytes ← IO.FS.readBinFile "/proc/self/environ"
    let entries := (Text.fields '\x00' (Text.decodeLossy bytes.toList).toList).filterMap
      (Text.cutFirst '=')
    return entries.map fun (name, value) => (String.ofList name, String.ofList value)
  catch _ => return []

def readTime : IO Timestamp := do
  let now ← Std.Time.Timestamp.now
  return ⟨now.val.second.val, now.val.nano.val.toNat⟩

structure Printed where
  output : Nat := 0
  messages : Nat := 0

def print (world : World) (printed : Printed) : IO Printed := do
  IO.print (world.output.drop printed.output).toString
  (← IO.getStdout).flush
  IO.eprint (world.messages.drop printed.messages).toString
  return ⟨world.output.length, world.messages.length⟩

/-- Runs the program with the input so far, and again whenever it asks for more. -/
partial def converse (run : CommandLine.Run) (files : FileTree) (input : Text.Bytes)
    (printed : Printed) : IO UInt32 := do
  let (code, world) := run { files := files, input := input }
  let printed ← print world printed
  let line ← if world.starved then (← IO.getStdin).getLine else pure ""
  if line.isEmpty then
    writeFiles files world.files
    return UInt32.ofNat code.number
  else converse run files (input ++ Text.encode line) printed

end Signpost.Machine

def main (arguments : List String) : IO UInt32 := do
  let setting : Signpost.CommandLine.Setting :=
    { environment := ← Signpost.Machine.readVariables, time := ← Signpost.Machine.readTime }
  let files ← match Signpost.CommandLine.request arguments with
    | .invoke invocation => Signpost.Machine.readFiles invocation
    | _ => pure { mount := "" }
  Signpost.Machine.converse (Signpost.CommandLine.program setting arguments) files [] {}
