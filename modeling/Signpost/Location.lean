import Signpost.Text.Basic

/-! Locations: a block of a document, written `path.block`.

The block is what follows the last point of the last segment, so the path may hold points of its
own. -/

namespace Signpost

inductive LinkError where
  | empty
  | missingDocument (link : String)
  | missingBlock (location : String)
  | invalidBlock (block : String)
  | emptyPredicate (link : String)
deriving DecidableEq, Repr, Inhabited

def LinkError.message : LinkError → String
  | empty => "empty link expression"
  | missingDocument link => "link '" ++ link ++ "' does not name a document"
  | missingBlock location => "location '" ++ location ++ "' has no entry point"
  | invalidBlock block => "invalid entry point '" ++ block ++ "'"
  | emptyPredicate link => "empty permission predicate in '" ++ link ++ "'"

structure Location where
  path : String
  block : String
deriving DecidableEq, Repr, Inhabited

namespace Location

def text (l : Location) : String := l.path ++ "." ++ l.block

/-- A block name has at least one character, and neither a blank nor a slash. -/
def validBlock (block : List Char) : Bool :=
  !block.isEmpty && block.all fun c => !Text.isBlank c && c != '/'

def splitName (body : List Char) : List Char × List Char :=
  match Text.cutLast '/' body with
  | some (directory, name) => (directory ++ ['/'], name)
  | none => ([], body)

/-- Cuts the block off at the last point of the last segment. A point at the start of the segment
belongs to the path. -/
def splitBlock (body : List Char) : List Char × Option (List Char) :=
  let (directory, name) := splitName body
  match Text.cutLast '.' name with
  | some (c :: before, block) => (directory ++ c :: before, some block)
  | _ => (body, none)

def read (written : String) : Except LinkError Location :=
  match splitBlock written.toList with
  | (_, none) => .error (.missingBlock written)
  | (path, some block) =>
      if path.isEmpty then .error (.missingDocument written)
      else if validBlock block then .ok ⟨String.ofList path, String.ofList block⟩
      else .error (.invalidBlock (String.ofList block))

end Location

end Signpost
