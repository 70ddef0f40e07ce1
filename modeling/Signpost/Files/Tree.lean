import Signpost.Files.Path
import Signpost.Text.Utf8

/-! A directory with everything in it.

Paths are followed part by part; each part is looked up in a directory, so a slash behind a file
leads nowhere. Symbolic links and permissions are left aside. -/

namespace Signpost

inductive FileNode where
  | directory
  | file (content : Text.Bytes)
deriving DecidableEq, Repr, Inhabited

inductive FileError where
  | notFound
  | busy
  | alreadyThere
  | notDirectory
  | isDirectory
  | notText
deriving DecidableEq, Repr, Inhabited

def FileError.message : FileError → String
  | notFound => "No such file or directory (os error 2)"
  | busy => "Device or resource busy (os error 16)"
  | alreadyThere => "File exists (os error 17)"
  | notDirectory => "Not a directory (os error 20)"
  | isDirectory => "Is a directory (os error 21)"
  | notText => "stream did not contain valid UTF-8"

inductive FileFault where
  | read (path : String) (error : FileError)
  | createDirectory (path : String) (error : FileError)
  | writeTemporary (path : String) (error : FileError)
  | write (path : String) (error : FileError)
  | replace (path : String) (error : FileError)
deriving DecidableEq, Repr, Inhabited

def FileFault.chain : FileFault → List String
  | read path error => ["read " ++ path, error.message]
  | createDirectory path error => ["create directory " ++ path, error.message]
  | writeTemporary path error => ["write temp file " ++ path, error.message]
  | write path error => ["write file " ++ path, error.message]
  | replace path error => ["replace " ++ path, error.message]

/-- The nodes below a directory by their names. `mount` is the absolute name of the directory, and
`start` is the place below it where relative paths start. -/
structure FileTree where
  mount : String
  nodes : List (List String × FileNode) := []
  start : List String := []
deriving DecidableEq, Repr, Inhabited

namespace FileTree

def node? (tree : FileTree) (place : List String) : Option FileNode :=
  if place.isEmpty then some .directory else tree.nodes.lookup place

def isDirectoryAt (tree : FileTree) (place : List String) : Bool :=
  tree.node? place == some .directory

def isAt (tree : FileTree) (path : String) : Bool :=
  path == tree.mount || path.startsWith (tree.mount ++ "/")

def setIn (place : List String) (node : FileNode) :
    List (List String × FileNode) → List (List String × FileNode)
  | [] => [(place, node)]
  | (other, old) :: rest =>
      if other = place then (place, node) :: rest else (other, old) :: setIn place node rest

def set (tree : FileTree) (place : List String) (node : FileNode) : FileTree :=
  { tree with nodes := setIn place node tree.nodes }

def remove (tree : FileTree) (place : List String) : FileTree :=
  { tree with nodes := tree.nodes.filter fun (other, _) => other != place }

def partsBelow? (tree : FileTree) (path : String) : Option (List String) :=
  if path = tree.mount then some []
  else if path.startsWith (tree.mount ++ "/") then
    some (Path.parts (path.drop (tree.mount.length + 1)).toString)
  else if Path.isAbsolute path then none
  else some (tree.start ++ Path.parts path)

def follow (tree : FileTree) (place : List String) : List String → Option (List String)
  | [] => some place
  | part :: parts =>
      if !tree.isDirectoryAt place then none
      else if part = "" || part = "." then follow tree place parts
      else if part = ".." then
        if place.isEmpty then none else follow tree place.dropLast parts
      else follow tree (place ++ [part]) parts

def locate? (tree : FileTree) (path : String) : Option (List String) :=
  (tree.partsBelow? path).bind (tree.follow [])

/-- What is at a path. Steps alone lead to a directory, even above the top. -/
def lookup? (tree : FileTree) (path : String) : Option FileNode :=
  if (Path.parts path).all fun part => part = "" || part = "." || part = ".." then
    if path.isEmpty then none else some .directory
  else (tree.locate? path).bind tree.node?

def has (tree : FileTree) (path : String) : Bool := (tree.lookup? path).isSome

def isFile (tree : FileTree) (path : String) : Bool :=
  match tree.lookup? path with
  | some (.file _) => true
  | _ => false

def startingAt (tree : FileTree) (path : String) : FileTree :=
  { tree with start := (tree.locate? path).getD tree.start }

def readText (tree : FileTree) (path : String) : Except FileError String :=
  match tree.lookup? path with
  | none => .error .notFound
  | some .directory => .error .isDirectory
  | some (.file content) =>
      match Text.decode? content with
      | some text => .ok text
      | none => .error .notText

def makeDirectories (tree : FileTree) (place : List String) :
    List String → Except FileError FileTree
  | [] => if tree.isDirectoryAt place then .ok tree else .error .alreadyThere
  | part :: parts =>
      if part = "" || part = "." then makeDirectories tree place parts
      else if part = ".." then
        if place.isEmpty then .error .notFound else makeDirectories tree place.dropLast parts
      else
        let place := place ++ [part]
        match tree.node? place with
        | some .directory => makeDirectories tree place parts
        | some (.file _) =>
            .error (if parts.all fun part => part = "" || part = "." then .alreadyThere else .notDirectory)
        | none => makeDirectories (tree.set place .directory) place parts

def createDirectories (tree : FileTree) (path : String) : Except FileError FileTree :=
  match tree.partsBelow? path with
  | none => .error .notFound
  | some parts => tree.makeDirectories [] parts

def writeFile (tree : FileTree) (path : String) (content : Text.Bytes) :
    Except FileError FileTree :=
  match tree.locate? path with
  | none => .error .notFound
  | some place =>
      if tree.isDirectoryAt place then .error .isDirectory
      else if tree.isDirectoryAt place.dropLast then .ok (tree.set place (.file content))
      else .error .notFound

/-- Why nothing can be named by these parts, seen from a place: a directory is missing, or a file
stands where one should be. -/
def obstacle? (tree : FileTree) (place : List String) : List String → Option FileError
  | [] | [_] => if tree.isDirectoryAt place then none else some .notDirectory
  | part :: parts =>
      if part = "" || part = "." then obstacle? tree place parts
      else if part = ".." then obstacle? tree place.dropLast parts
      else match tree.node? (place ++ [part]) with
        | none => some .notFound
        | some (.file _) => some .notDirectory
        | some .directory => obstacle? tree (place ++ [part]) parts

/-- Why a file cannot be moved to these parts. A file takes no name that ends in a slash, and a step
is no name. -/
def refusal? (tree : FileTree) (parts : List String) : Option FileError :=
  let named := (parts.reverse.dropWhile (· == "")).reverse
  match tree.obstacle? [] named with
  | some error => some error
  | none =>
      if named.getLast?.any fun part => part == "." || part == ".." then some .busy
      else if named.length < parts.length then some .notDirectory
      else none

def replaceFile (tree : FileTree) (source path : String) : Except FileError FileTree :=
  match (tree.partsBelow? path).bind tree.refusal? with
  | some error => .error error
  | none =>
      match tree.locate? source, tree.locate? path with
      | some source, some place =>
          match tree.node? source with
          | some (.file content) =>
              if tree.isDirectoryAt place then .error .isDirectory
              else .ok ((tree.remove source).set place (.file content))
          | _ => .error .notFound
      | _, _ => .error .notFound

/-- Replaces a file in one step: the text is written beside it and then moved over it. Also returns
the tree as it is left after a fault. -/
def writeAtomic (tree : FileTree) (path text : String) : Option FileFault × FileTree :=
  let parent := (Path.parent? path).getD ""
  match tree.createDirectories parent with
  | .error e => (some (.createDirectory parent e), tree)
  | .ok tree =>
      let temporary := Path.temporary path
      match tree.writeFile temporary (Text.encode text) with
      | .error e => (some (.writeTemporary temporary e), tree)
      | .ok tree =>
          match tree.replaceFile temporary path with
          | .error e => (some (.replace path e), tree)
          | .ok tree => (none, tree)

end FileTree

end Signpost
