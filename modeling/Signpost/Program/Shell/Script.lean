import Signpost.Text.Utf8

/-! The scripts of the shell.

A word is kept as it is written, with a mark at each quote: what its parts become is known only when
the word is expanded. All text is raw. -/

namespace Signpost.Program.Shell

inductive Form where
  /-- No form that there is. -/
  | unknown
  | value
  /-- A word where the parameter is not set. -/
  | otherwise
  /-- A word where the parameter is set. -/
  | instead
  /-- A complaint where the parameter is not set. -/
  | required
  /-- A word that is also assigned where the parameter is not set. -/
  | assigned
  /-- The value without a start or an end that a pattern matches. -/
  | trimmedStart (longest : Bool)
  | trimmedEnd (longest : Bool)
  | length
deriving DecidableEq, Repr, Inhabited

inductive Opening where
  | input
  | output
  /-- Output into a file that may exist. -/
  | overwriting
  | append
  | both
deriving DecidableEq, Repr, Inhabited

mutual

inductive Piece where
  /-- A character that may have a meaning of its own. -/
  | char (c : Char)
  /-- A character that stands for itself. -/
  | plain (c : Char)
  /-- The start or the end of a quotation. -/
  | quote
  /-- A parameter. With `orEmpty` an empty value counts as not set. -/
  | parameter (name : String) (form : Form) (orEmpty : Bool) (word : List Piece)
  /-- What a script prints. -/
  | output (script : Option Command)
  | arithmetic (expression : List Piece)

inductive Redirection where
  | file (descriptor : Nat) (opening : Opening) (path : List Piece)
  /-- Makes a descriptor lead where another one leads. -/
  | duplicate (descriptor : Nat) (target : List Piece)
  /-- A text in the script, by its number. -/
  | document (descriptor : Nat) (number : Nat)

inductive Command where
  | simple (line : Nat) (assignments words : List (List Piece)) (redirections : List Redirection)
  | pipe (stages : List Command) (background : Bool)
  | sequence (first second : Command)
  | both (first second : Command)
  | either (first second : Command)
  | negated (command : Command)
  | background (body : Command)
  | subshell (line : Nat) (body : Command) (redirections : List Redirection)
  | redirected (line : Nat) (body : Command) (redirections : List Redirection)
  | choice (condition thenPart : Command) (elsePart : Option Command)
  /-- Repeats the body as long as the condition holds, or as long as it does not. -/
  | loop (holds : Bool) (condition body : Command)
  | each (line : Nat) (name : String) (words : List (List Piece)) (body : Command)
  | select (line : Nat) (word : List Piece) (cases : List (List (List Piece) × Option Command))
  | define (name : String) (body : Command)

end

abbrev Word := List Piece

instance : Inhabited Piece := ⟨.quote⟩

instance : Inhabited Command := ⟨.simple 0 [] [] []⟩

structure Document where
  body : Word
  /-- Whether parameters in it are expanded. -/
  expands : Bool
deriving Inhabited

def Piece.char? : Piece → Option Char
  | .char c => some c
  | _ => none

def plainText? (word : Word) : Option String := (word.mapM Piece.char?).map String.ofList

def startsName (c : Char) : Bool := c.isAlpha || c == '_'

def continuesName (c : Char) : Bool := c.isAlphanum || c == '_'

def isName (text : String) : Bool :=
  match text.toList with
  | c :: rest => startsName c && rest.all continuesName
  | [] => false

def assignedName? (word : Word) : Option String :=
  let name := (word.takeWhile fun piece => (piece.char?.any continuesName)).filterMap Piece.char?
  match word.drop name.length with
  | .char '=' :: _ => if name.head?.any startsName then some (String.ofList name) else none
  | _ => none

end Signpost.Program.Shell
