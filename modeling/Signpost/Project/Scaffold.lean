import Signpost.Config

/-! A new project: settings, a first document and a directory for tables. -/

namespace Signpost.Project

structure Paths where
  root : String
  config : String
  documents : String
  data : String
  /-- The first document. -/
  main : String
deriving DecidableEq, Repr, Inhabited

def Paths.below (root : String) : Paths :=
  let base : Config := {}
  let documents := Path.join root base.documentsDirectory
  ⟨root, Path.join root Config.fileName, documents, Path.join root base.dataDirectory,
    Path.join documents "main.json"⟩

def firstDocument : String :=
  "\x7b\n" ++
  "  \"main\": \x7b\n" ++
  "    \"welcome\": \x7b\"display\": \"Welcome to keyflow, \x7b\x7b user or \\\"guest\\\" \x7d\x7d.\"\x7d,\n" ++
  "    \"start*\": [\"Greet\", \"Users\"]\n" ++
  "  \x7d,\n" ++
  "  \"Greet\": \x7b\n" ++
  "    \"hello\": \"call(echo, \\\"hello from keyflow\\\")\"\n" ++
  "  \x7d,\n" ++
  "  \"Users\": \x7b\n" ++
  "    \"list\": \x7b\"action\": \"list\", \"table\": \"users\"\x7d\n" ++
  "  \x7d\n" ++
  "\x7d\n"

inductive ScaffoldError where
  /-- There is one already, and it was not to be overwritten. -/
  | present
  | file (fault : FileFault)
  | config (chain : List String)
deriving DecidableEq, Repr, Inhabited

def ScaffoldError.chain : ScaffoldError → List String
  | present => ["keyflow init: " ++ Config.fileName ++ " already exists (use --force to overwrite)"]
  | file fault => fault.chain
  | config chain => chain

def makeDirectory (tree : FileTree) (path : String) : Except ScaffoldError FileTree :=
  match tree.createDirectories path with
  | .ok tree => .ok tree
  | .error e => .error (.file (.createDirectory path e))

def writeFirst (tree : FileTree) (path : String) : Except ScaffoldError FileTree :=
  match tree.writeFile path (Text.encode firstDocument) with
  | .ok tree => .ok tree
  | .error e => .error (.file (.write path e))

/-- Sets up a project below `root`. Settings that are there already are overwritten only by force.
What was done before an error stays. -/
def scaffold (tree : FileTree) (root : String) (force : Bool) :
    Except ScaffoldError Paths × FileTree :=
  let paths := Paths.below root
  if tree.has paths.config && !force then (.error .present, tree)
  else match makeDirectory tree paths.documents with
    | .error e => (.error e, tree)
    | .ok tree =>
        match makeDirectory tree paths.data with
        | .error e => (.error e, tree)
        | .ok tree =>
            match Config.write {} tree paths.config with
            | (.error chain, tree) => (.error (.config chain), tree)
            | (.ok (), tree) =>
                match writeFirst tree paths.main with
                | .error e => (.error e, tree)
                | .ok tree => (.ok paths, tree)

end Signpost.Project
