import Signpost.Program.Shell.Setting

/-! What the name of a command means.

A name with a slash is a path. Others are looked for among the functions, the commands of the shell and
the programs of the directories in which programs are looked for. -/

namespace Signpost.Program.Shell

def ordinaryCommands : List String :=
  ["[", "alias", "bg", "cd", "chdir", "command", "echo", "false", "fg", "getopts", "hash", "jobs",
    "kill", "printf", "pwd", "read", "test", "true", "type", "ulimit", "umask", "unalias", "wait"]

def assigningCommands : List String := ["export", "local", "readonly"]

inductive Meaning where
  | function (body : Command)
  | own (special : Bool)
  | path
  | program (path : String)
  | missing (error : SystemError)

def usualSearch : String := "/usr/local/sbin:/usr/local/bin:/usr/sbin:/usr/bin:/sbin:/bin"

def searched (search name : String) : List String :=
  (search.splitOn ":").map fun directory =>
    if directory.isEmpty then name else directory ++ "/" ++ name

/-- Looks for a program; `error` is the best reason so far why there is none. -/
def programIn (s : State) (error : SystemError) : List String → Except SystemError String
  | [] => .error error
  | path :: paths =>
      match s.find path with
      | .ok .program => .ok path
      | .ok _ => programIn s .denied paths
      | .error .notFound | .error .notDirectory => programIn s error paths
      | .error other => programIn s other paths

def runningMessage : SystemError → String
  | .notFound | .notDirectory => "not found"
  | error => error.message

def runningStatus : SystemError → Nat
  | .notFound | .notDirectory | .nameTooLong => 127
  | _ => 126

namespace Process

def search (p : Process) : String := p.bindings.text "PATH"

def meaning (p : Process) (functions : Bool) (search : Option String) (name : String) : Meaning :=
  if name.contains '/' then .path
  else match if functions then p.functions.lookup name else none with
    | some body => .function body
    | none =>
        if specialCommands.contains name then .own true
        else if ordinaryCommands.contains name then .own false
        else match programIn p.state .notFound (searched (search.getD p.search) name) with
          | .ok path => .program path
          | .error error => .missing error

end Process

def track (name path : String) : Running Unit :=
  modify fun p =>
    if (p.tracked.lookup name).isSome then p else { p with tracked := p.tracked ++ [(name, path)] }

/-- Tells what a name means, in a sentence or as it is written; the status tells whether it means
something. -/
def describe (verbose : Bool) (search : Option String) (name : String) : Running Nat := do
  let p ← get
  let tell (sentence brief : String) : Running Nat := do
    emit (if verbose then name ++ sentence ++ "\n" else brief ++ "\n")
    return 0
  let missing : Running Nat := do
    if verbose then emit (name ++ ": not found\n")
    return 127
  if keywords.contains name then tell " is a shell keyword" name
  else match p.aliases.lookup name with
    | some value => tell (" is an alias for " ++ value) ("alias " ++ aliasText name value)
    | none =>
        match p.meaning true search name with
        | .function _ => tell " is a shell function" name
        | .own special =>
            tell (if special then " is a special shell builtin" else " is a shell builtin") name
        | .path => if (p.state.find name).isOk then tell (" is " ++ name) name else missing
        | .program path => do
            if search.isNone then track name path
            tell ((if (p.tracked.lookup name).isSome then " is a tracked alias for " else " is ") ++ path)
              path
        | .missing _ => missing

def describeAll (arguments : List String) : Running Nat :=
  arguments.foldlM (fun status name => do return status ||| (← describe true none name)) 0

def describeCommand (arguments : List String) : Running Nat := do
  let given ← optionsOf (plainLetters "pvV") arguments
  let asked := given.options.filterMap fun (letter, _) => if letter = 'p' then none else some letter
  match given.operands, asked.getLast? with
  | name :: _, some letter =>
      describe (letter = 'V') (if given.has 'p' then some usualSearch else none) name
  | _, _ => return 0

def trackedRows : Nat := 31

def trackPrograms (arguments : List String) : Running Nat := do
  let given ← optionsOf (plainLetters "r") arguments
  if given.has 'r' then
    modify fun p => { p with tracked := [] }
    return 0
  else if given.operands.isEmpty then
    let tracked := (← get).tracked
    for row in List.range trackedRows do
      for (name, path) in tracked do
        if rowOf trackedRows name == row then emit (path ++ "\n")
    return 0
  else
    given.operands.foldlM (fun status name => do
      match (← get).meaning true none name with
      | .program path =>
          track name path
          return status
      | .missing error =>
          warn (name ++ ": " ++ runningMessage error)
          return 1
      | _ => return status) 0

end Signpost.Program.Shell
