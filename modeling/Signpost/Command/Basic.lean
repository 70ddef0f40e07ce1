import Signpost.Value.Text
import Signpost.Text.Basic

/-! Commands: what the value of a key asks for. -/

namespace Signpost

structure MenuSpec where
  /-- A list, a record, a single value, or a call that produces one of them. -/
  items : Value
  title : Option String := none
  allowBack : Bool := true
  multi : Bool := false
deriving Repr, Inhabited

inductive Flaw where
  | unbalanced
  | unterminatedQuote
  | emptyArgument
  | missingName
  | missingArgument
deriving DecidableEq, Repr, Inhabited

def Flaw.message : Flaw → String
  | unbalanced => "unbalanced parentheses"
  | unterminatedQuote => "unterminated quote"
  | emptyArgument => "empty argument"
  | missingName => "missing function name"
  | missingArgument => "missing argument"

inductive Command where
  | empty
  | call (name : String) (args : List Value)
  | link (target : String)
  /-- Shows a resource. -/
  | openResource (target : String)
  /-- Answers the content of a resource. -/
  | readResource (target : String)
  | workflow (spec : Value)
  | display (value : Value)
  | dialog (spec : Value)
  | menu (spec : MenuSpec)
  | data (record : Fields)
  | sequence (items : List Value)
  /-- Text that is no instruction, or a single number or truth value. -/
  | plain (text : String)
  /-- An instruction whose argument cannot be read. -/
  | malformed (text : String) (flaw : Flaw)
deriving Repr, Inhabited

inductive CommandError where
  | ambiguous (keys : List String)
  | unrecognized (keys : List String)
  | invalid (key reason : String)
deriving DecidableEq, Repr, Inhabited

def CommandError.message : CommandError → String
  | ambiguous keys => "record has several action keys: " ++ Text.join ", " keys
  | unrecognized keys => "record has no recognized action key: " ++ Text.join ", " keys
  | invalid key reason => "invalid '" ++ key ++ "' value: " ++ reason

def malformedMessage (text : String) (flaw : Flaw) : String :=
  "malformed instruction '" ++ text ++ "': " ++ flaw.message

def positional : Value → List Value
  | .null => []
  | .arr items => items
  | value => [value]

end Signpost
