import Signpost.Document
import Signpost.Files.Tree
import Signpost.Toml.Reader

/-! A directory of documents.

The document `/app/settings` is the file `app/settings.json` of the directory or, where that is no
file, `app/settings.toml`. A document is taken only if its record has the shape of one. -/

namespace Signpost.Document

def segments? (path : String) : Option (List String) :=
  let segments := (Path.parts path).filter (· != "")
  if segments.isEmpty || segments.any fun segment => segment == "." || segment == ".." then none
  else some segments

inductive Format where
  | json
  | toml
deriving DecidableEq, Repr, Inhabited

def Format.extension : Format → String
  | json => "json"
  | toml => "toml"

def Format.read? : Format → String → Option Value
  | json => Value.read?
  | toml => Toml.read?

def fileOf (directory : String) (segments : List String) (format : Format) : String :=
  let parent := segments.dropLast.foldl Path.join directory
  Path.join parent (Path.withExtension (segments.getLast?.getD "") format.extension)

def file? (tree : FileTree) (directory path : String) : Option (Format × String) :=
  (segments? path).bind fun segments =>
    ([Format.json, Format.toml].map fun format => (format, fileOf directory segments format)).find?
      fun (_, file) => tree.isFile file

def isNameBlank (c : Char) : Bool :=
  c == ' ' || ('\t' ≤ c && c ≤ '\r') || c == '\u00a0' || c == '\u2003' || c == '\u2029' ||
    c == '\ufeff'

/-- A block name has at least one character; points, slashes and blanks are not among them. -/
def validName (name : String) : Bool :=
  !name.isEmpty && name.toList.all fun c => c != '.' && c != '/' && !isNameBlank c

def validBlock : Value → Bool
  | .obj entries => (Fields.names entries).all fun key => !key.isEmpty
  | _ => false

/-- Whether a value has the shape of a document: a record of at least one named block. -/
def hasShape : Value → Bool
  | .obj blocks => !blocks.isEmpty && blocks.all fun (name, block) => validName name && validBlock block
  | _ => false

def readFile (tree : FileTree) (format : Format) (file : String) : Except (List String) Value :=
  match tree.readText file with
  | .error e => .error (FileFault.read file e).chain
  | .ok text =>
      match format.read? text with
      | none => .error ["parse " ++ file, "not a record of blocks"]
      | some value =>
          if hasShape value then .ok value
          else .error ["document schema validation failed: not a record of blocks"]

def load (tree : FileTree) (directory path : String) : Except LoadError Document :=
  match file? tree directory path with
  | none => .error (.notFound path)
  | some (format, file) =>
      match readFile tree format file with
      | .error chain => .error (.invalid path (Text.join ": " chain))
      | .ok value => ofValue path value

end Signpost.Document
