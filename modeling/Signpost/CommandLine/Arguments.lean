import Signpost.Text.Basic

/-! Reading the arguments of the command line.

Options may stand before and after the name of the task; what is said after it wins. An option with
a value takes it after an equals sign or from the next argument, and none may be given twice. -/

namespace Signpost.CommandLine

inductive Task where
  | scaffold (force : Bool)
  | run (path : String) (sessionFile : Option String)
  | check (path : String)
  | link (written : String) (start : String)
deriving DecidableEq, Repr, Inhabited

structure Invocation where
  root : String
  task : Task
deriving DecidableEq, Repr, Inhabited

inductive Stop where
  | misuse
  | help
  | version
deriving DecidableEq, Repr, Inhabited

/-- What may be given to a task. Every task has the option `root` and the flag for help. -/
structure Shape where
  flags : List (Char × String) := []
  options : List String := []
  /-- The number of words; at the top the first word ends the reading. -/
  words : Option Nat := none
deriving DecidableEq, Repr, Inhabited

structure Given where
  flags : List String := []
  options : List (String × String) := []
  words : List String := []
deriving DecidableEq, Repr, Inhabited

def pathOptions : List String := ["root", "session"]

namespace Given

def addFlag (given : Given) (name : String) : Except Stop Given :=
  if given.flags.contains name then .error .misuse
  else .ok { given with flags := name :: given.flags }

def addOption (given : Given) (name value : String) : Except Stop Given :=
  if (given.options.lookup name).isSome || (value.isEmpty && pathOptions.contains name) then
    .error .misuse
  else .ok { given with options := (name, value) :: given.options }

def addWords (given : Given) (shape : Shape) (words : List String) : Except Stop Given :=
  let words := given.words ++ words
  if shape.words.any fun most => words.length ≤ most then .ok { given with words := words }
  else .error .misuse

end Given

/-- Whether an argument is read as an option; a single hyphen is a word. -/
def isOption (argument : String) : Bool := argument.startsWith "-" && argument != "-"

def readLetters (shape : Shape) (given : Given) : List Char → Except Stop Given
  | [] => .ok given
  | letter :: letters =>
      if letter = 'h' then .error .help
      else if letter = 'V' && shape.words.isNone then .error .version
      else match shape.flags.lookup letter with
        | some name =>
            match given.addFlag name with
            | .ok given => readLetters shape given letters
            | .error stop => .error stop
        | none => .error .misuse

def splitLong (argument : String) : String × Option String :=
  let body := argument.toList.drop 2
  match Text.cutFirst '=' body with
  | some (name, value) => (String.ofList name, some (String.ofList value))
  | none => (String.ofList body, none)

def readFlag (shape : Shape) (given : Given) (name : String) : Except Stop Given :=
  if name = "help" then .error .help
  else if name = "version" && shape.words.isNone then .error .version
  else if (shape.flags.map (·.2)).contains name then given.addFlag name
  else .error .misuse

/-- Reads arguments. At the top, the name of the task and what follows it is left. -/
def scan (shape : Shape) (given : Given) : List String → Except Stop (Given × List String)
  | [] => .ok (given, [])
  | argument :: rest =>
      if argument = "--" then
        match given.addWords shape rest with
        | .ok given => .ok (given, [])
        | .error stop => .error stop
      else if argument.startsWith "--" then
        match splitLong argument with
        | (name, some value) =>
            if ("root" :: shape.options).contains name then
              match given.addOption name value with
              | .ok given => scan shape given rest
              | .error stop => .error stop
            else .error .misuse
        | (name, none) =>
            if ("root" :: shape.options).contains name then
              match rest with
              | [] => .error .misuse
              | value :: rest =>
                  if isOption value then .error .misuse
                  else match given.addOption name value with
                    | .ok given => scan shape given rest
                    | .error stop => .error stop
            else match readFlag shape given name with
              | .ok given => scan shape given rest
              | .error stop => .error stop
      else if isOption argument then
        match readLetters shape given (argument.toList.drop 1) with
        | .ok given => scan shape given rest
        | .error stop => .error stop
      else if shape.words.isNone then .ok (given, argument :: rest)
      else match given.addWords shape [argument] with
        | .ok given => scan shape given rest
        | .error stop => .error stop

def shapes : List (String × Shape) :=
  [("init", { flags := [('f', "force")], words := some 0 }),
    ("run", { options := ["session"], words := some 1 }),
    ("check", { words := some 1 }),
    ("link", { options := ["from"], words := some 1 })]

def taskOf? (name : String) (given : Given) : Option Task :=
  match name, given.words with
  | "init", [] => some (.scaffold (given.flags.contains "force"))
  | "run", [path] => some (.run path (given.options.lookup "session"))
  | "check", [path] => some (.check path)
  | "link", [written] => (given.options.lookup "from").map (.link written)
  | _, _ => none

inductive Request where
  | invoke (invocation : Invocation)
  /-- The usage of a task, or of the program. -/
  | usage (task : Option String)
  | version
  | misuse
deriving DecidableEq, Repr, Inhabited

def Request.ofStop (task : Option String) : Stop → Request
  | .help => .usage task
  | .version => .version
  | .misuse => .misuse

def helpOn : List String → Request
  | [] => .usage none
  | [name] => if name = "help" || (shapes.lookup name).isSome then .usage (some name) else .misuse
  | _ => .misuse

def request (arguments : List String) : Request :=
  match scan {} {} arguments with
  | .error stop => .ofStop none stop
  | .ok (_, []) => .misuse
  | .ok (before, name :: rest) =>
      if name = "help" then helpOn rest
      else match shapes.lookup name with
        | none => .misuse
        | some shape =>
            match scan shape {} rest with
            | .error stop => .ofStop (some name) stop
            | .ok (given, _) =>
                let root := ((given.options.lookup "root").or (before.options.lookup "root")).getD "."
                match taskOf? name given with
                | some task => .invoke ⟨root, task⟩
                | none => .misuse

/-! The texts that explain the command line. -/

def versionText : String := "keyflow 0.1.0\n"

def usageSection (heading : String) (lines : List String) : String :=
  "\n" ++ heading ++ ":\n" ++ String.join (lines.map fun line => "  " ++ line ++ "\n")

def usageText (purpose call : String) (words options : List String) : String :=
  purpose ++ "\n\nUsage: keyflow " ++ call ++ "\n" ++
    (if words.isEmpty then "" else usageSection "Arguments" words) ++
    (if options.isEmpty then "" else usageSection "Options" options)

def usage : Option String → String
  | some "init" =>
      usageText "Create `keyflow.toml` and a demo document" "init [OPTIONS]" []
        ["-f, --force        Overwrite existing files",
          "    --root <ROOT>  Project directory containing `keyflow.toml` [default: .]",
          "-h, --help         Print help"]
  | some "run" =>
      usageText "Run a document interactively" "run [OPTIONS] <PATH>"
        ["<PATH>  Document path, e.g. `/main`"]
        ["    --session <SESSION>  Load the session from and save it back to this file",
          "    --root <ROOT>        Project directory containing `keyflow.toml` [default: .]",
          "-h, --help               Print help"]
  | some "check" =>
      usageText "Classify every command of a document without running it" "check [OPTIONS] <PATH>"
        ["<PATH>  "]
        ["    --root <ROOT>  Project directory containing `keyflow.toml` [default: .]",
          "-h, --help         Print help"]
  | some "link" =>
      usageText "Print where a link expression leads from a location"
        "link [OPTIONS] --from <FROM> <EXPR>" ["<EXPR>  "]
        ["    --from <FROM>  Starting location as `path.block`",
          "    --root <ROOT>  Project directory containing `keyflow.toml` [default: .]",
          "-h, --help         Print help"]
  | some "help" =>
      usageText "Print this message or the help of the given subcommand(s)" "help [COMMAND]..."
        ["[COMMAND]...  Print help for the subcommand(s)"] []
  | _ =>
      "Declarative menu and navigation runtime\n\nUsage: keyflow [OPTIONS] <COMMAND>\n" ++
        usageSection "Commands"
          ["init   Create `keyflow.toml` and a demo document",
            "run    Run a document interactively",
            "check  Classify every command of a document without running it",
            "link   Print where a link expression leads from a location",
            "help   Print this message or the help of the given subcommand(s)"] ++
        usageSection "Options"
          ["    --root <ROOT>  Project directory containing `keyflow.toml` [default: .]",
            "-h, --help         Print help",
            "-V, --version      Print version"]

end Signpost.CommandLine
