import Signpost.Program.Shell.Run

/-! Starting a program from outside: it is found, gets its input and its variables, and is left alone
until its end. -/

namespace Signpost.Program

inductive StartError where
  /-- A name or an argument has an empty byte. -/
  | emptyByte
  | argumentsTooLong
  | system (error : SystemError)
  /-- The program has ended before it has read the input. -/
  | unreadInput
deriving DecidableEq, Repr, Inhabited

def SystemError.number : SystemError → Nat
  | notFound => 2
  | badDescriptor => 9
  | denied => 13
  | .exists => 17
  | notDirectory => 20
  | isDirectory => 21
  | noSpace => 28
  | nameTooLong => 36

def StartError.chain : StartError → List String
  | emptyByte => ["spawn command", "nul byte found in provided data"]
  | argumentsTooLong => ["spawn command", "Argument list too long (os error 7)"]
  | system error =>
      ["spawn command", error.message ++ " (os error " ++ toString error.number ++ ")"]
  | unreadInput => ["write stdin", "Broken pipe (os error 32)"]

def longestArgument : Nat := 131072

def usualVariables : Shell.Variables :=
  let exported (value : String) : Shell.Variable := { value := some value, exported := true }
  [("HOME", exported "/root"), ("PATH", exported Shell.usualSearch)]

def pathOfProgram (s : State) (name : String) : Except SystemError String :=
  if name.contains '/' then
    match s.find name with
    | .ok .program => .ok name
    | .ok _ => .error .denied
    | .error e => .error e
  else if name.isEmpty then .error .notFound
  else Shell.programIn s .notFound (Shell.searched Shell.usualSearch name)

def mostSteps : Nat := Nat.pow 2 20

def deepestNesting : Nat := Nat.pow 2 40

def firstNumber : Nat := 4711
def parentNumber : Nat := 4242

def pipeSize : Nat := 65536

def inputPipe : Nat := 0

def startDirectory (tree : FileTree) : String :=
  let path := Text.join "/" (tree.mount :: tree.start)
  if path.isEmpty then "/" else path

def startState (tree : FileTree) (input : Text.Bytes) : State :=
  let content : Pipe := if input.isEmpty then {} else { ready := [(0, input)] }
  { world := { tree := tree, pipes := [(inputPipe, content)], next := inputPipe + 1 }
    directory := startDirectory tree
    descriptors := [(0, .source inputPipe), (1, .outside .standard), (2, .outside .error)] }

def finishedAs (exit : Option Exit) (s : State) : Except StartError (Finished × FileTree) :=
  if exit.isSome && pipeSize < (s.world.pipe inputPipe).bytes.length then .error .unreadInput
  else
    .ok ({ exit := exit.getD (.signal killSignal)
           chunks := s.world.chunks.reverse.mergeSort fun a b => a.time ≤ b.time
           duration := if exit.isSome then s.time else Sleep.forever }, s.world.tree)

def run (tree : FileTree) (program : String) (arguments : List String) (input : Text.Bytes) :
    Except StartError (Finished × FileTree) :=
  let name := Text.toRaw program
  let words := arguments.map Text.toRaw
  let s := startState tree input
  if (name :: words).any fun word => word.contains '\x00' then .error .emptyByte
  else match pathOfProgram s name with
    | .error e => .error (.system e)
    | .ok path =>
        if (name :: words).any fun word => longestArgument ≤ word.length then .error .argumentsTooLong
        else match programAt? path s with
          | some "sh" =>
              let shell := Shell.Process.start name firstNumber parentNumber mostSteps usualVariables s
              let (exit, p) := Shell.runShell deepestNesting words shell
              finishedAs exit p.state
          | some known =>
              match action? known with
              | some action =>
                  let (exit, s) := action name words s
                  finishedAs (some exit) s
              | none => .error (.system .notFound)
          | none => .error (.system .notFound)

end Signpost.Program
