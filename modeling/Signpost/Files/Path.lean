import Signpost.Text.Basic

/-! Paths of files, as they are written.

Joining never changes what is already there, so a path reads as its parts were written. -/

namespace Signpost.Path

def isAbsolute (path : String) : Bool := path.startsWith "/"

def join (directory path : String) : String :=
  if isAbsolute path || directory.isEmpty then path
  else if directory.endsWith "/" then directory ++ path
  else directory ++ "/" ++ path

def parts (path : String) : List String := (Text.fields '/' path.toList).map String.ofList

/-- A file name with another extension: what follows its last point is replaced, unless the point
comes first. Two points that are left once the old extension is cut off are the step upwards, which
takes no extension. -/
def withExtension (name extension : String) : String :=
  match Text.cutLast '.' name.toList with
  | some (['.'], _) => ".."
  | some (c :: before, _) => String.ofList (c :: before) ++ "." ++ extension
  | _ => name ++ "." ++ extension

def trimEnd : List Char → List Char
  | ['/'] => ['/']
  | '/' :: before => trimEnd before
  | '.' :: '/' :: before => trimEnd ('/' :: before)
  | path => path

def trimmed (path : String) : String := String.ofList (trimEnd path.toList.reverse).reverse

/-- The directory that holds what a path names; the top and the empty path are held by none. -/
def parent? (path : String) : Option String :=
  let path := trimmed path
  if path.isEmpty || path == "/" then none
  else match Text.cutLast '/' path.toList with
    | some ([], _) => some "/"
    | some (directory, _) => some (trimmed (String.ofList directory))
    | none => some ""

def name? (path : String) : Option String :=
  let last := (parts (trimmed path)).getLast?.getD ""
  if last.isEmpty || last == "." || last == ".." then none else some last

def withName (path name : String) : String :=
  match name? path with
  | some _ => join ((parent? path).getD "") name
  | none => join path name

/-- The file beside a path in which its new text is prepared. -/
def temporary (path : String) : String := withName path ((name? path).getD "" ++ ".tmp")

end Signpost.Path
