import Signpost.Value.Basic
import Signpost.Key

/-! Documents: named blocks of keys with their commands, in written order. -/

namespace Signpost

abbrev Block := Fields

structure Document where
  path : String
  blocks : List (String × Block)
deriving Repr, Inhabited

inductive LoadError where
  | notFound (path : String)
  | invalid (path message : String)
deriving DecidableEq, Repr, Inhabited

def LoadError.message : LoadError → String
  | notFound path => "document '" ++ path ++ "' not found"
  | invalid path message => "document '" ++ path ++ "' is invalid: " ++ message

namespace Document

/-- The blocks of a record in order; the name of the first field that is no record otherwise. -/
def blocksOf : List (String × Value) → Except String (List (String × Block))
  | [] => .ok []
  | (name, .obj entries) :: rest => (blocksOf rest).map ((name, entries) :: ·)
  | (name, _) :: _ => .error name

def ofValue (path : String) : Value → Except LoadError Document
  | .obj fields =>
      match blocksOf fields with
      | .ok blocks => .ok ⟨path, blocks⟩
      | .error name => .error (.invalid path ("block '" ++ name ++ "' must be an object"))
  | _ => .error (.invalid path "document root must be an object")

def block? (doc : Document) (name : String) : Option Block := doc.blocks.lookup name

def hasBlock (doc : Document) (name : String) : Bool := (doc.block? name).isSome

def blockNames (doc : Document) : List String := doc.blocks.map (·.1)

def defaultBlock? (doc : Document) (preferred : String) : Option String :=
  if doc.hasBlock preferred then some preferred else doc.blockNames.head?

/-- An entry by its written key, else the first one with the same bare key. -/
def entry? (entries : Block) (key : String) : Option (String × Value) :=
  match Fields.get? entries key with
  | some command => some (key, command)
  | none => entries.find? fun (written, _) => Key.bare written == Key.bare key

/-- The written key and the command that a key stands for in a block. -/
def lookupKey? (doc : Document) (block key : String) : Option (String × Value) :=
  (doc.block? block).bind fun entries => entry? entries key

end Document

end Signpost
