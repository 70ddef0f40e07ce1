import Signpost.Host
import Signpost.Program.Start

/-! Workflows: commands that start a program.

A workflow is a command line, or a record with a command line or a list of words and perhaps the
input. It succeeds when the program ends with the exit code zero, and its value is what the program
has printed, without outer blanks. -/

namespace Signpost.Workflow

inductive Error where
  | unterminatedQuote (line : String)
  | noCommand
  | unsupported (value : Value)
  | notRun (program : String) (error : Program.StartError)
deriving Repr, Inhabited

def Error.chain : Error → List String
  | unterminatedQuote line => ["unterminated quote in '" ++ line ++ "'"]
  | noCommand => ["workflow record needs a 'command'"]
  | unsupported value => ["unsupported workflow value: " ++ value.text]
  | notRun program error => ("run workflow '" ++ program ++ "'") :: error.chain

def isQuote (c : Char) : Bool := c == '"' || c == '\''

/-- Splits a line into words at blanks. Quotes protect what is between them and may be empty;
`word` is the word that is being read. Without a closing quote there are no words. -/
def splitFrom (quote : Option Char) (word : Option (List Char)) :
    List Char → Option (List (List Char))
  | [] => if quote.isSome then none else some word.toList
  | c :: rest =>
      match quote with
      | some q =>
          if c = q then splitFrom none word rest
          else splitFrom quote (some (word.getD [] ++ [c])) rest
      | none =>
          if isQuote c then splitFrom (some c) (some (word.getD [])) rest
          else if Text.isBlank c then
            match word with
            | some done => (splitFrom none none rest).map (done :: ·)
            | none => splitFrom none none rest
          else splitFrom none (some (word.getD [] ++ [c])) rest

def splitLine (line : String) : Except Error (List String) :=
  match splitFrom none none line.toList with
  | some words => .ok (words.map String.ofList)
  | none => .error (.unterminatedQuote line)

structure Invocation where
  argv : List String
  input : Option String
deriving DecidableEq, Repr, Inhabited

def invocation : Value → Except Error Invocation
  | .str line => (splitLine line).map fun argv => ⟨argv, none⟩
  | .obj spec =>
      let input := Fields.text? spec "stdin"
      match Fields.get? spec "command" with
      | some (.str line) => (splitLine line).map fun argv => ⟨argv, input⟩
      | some (.arr items) => .ok ⟨items.map Value.plain, input⟩
      | _ => .error .noCommand
  | value => .error (.unsupported value)

/-- The bounds within which workflows run. The time limit is in milliseconds. -/
structure Settings where
  timeout : Nat
  outputLimit : Nat

def replyOf (settings : Settings) (program : String) (captured : Program.Captured) : Reply :=
  let stdout := Text.trim (Text.decodeLossy captured.stdout)
  let stderr := Text.trim (Text.decodeLossy captured.stderr)
  let failed (status : String) : Reply :=
    .failed ("workflow '" ++ program ++ "' exited with " ++ status ++ ": " ++
      (if stderr.isEmpty then stdout else stderr))
  if captured.timedOut then
    .failed ("workflow '" ++ program ++ "' timed out after " ++
      toString (settings.timeout / 1000) ++ "s")
  else match captured.exit with
    | .code 0 => .ok (if stdout.isEmpty then .null else .str stdout)
    | .code n => failed (toString n)
    | .signal _ => failed "signal"

/-- Runs a workflow in a directory. Also returns the files as they are left. -/
def run (settings : Settings) (tree : FileTree) (value : Value) : Except Error Reply × FileTree :=
  match invocation value with
  | .error e => (.error e, tree)
  | .ok ⟨[], _⟩ => (.ok (.failed "workflow has no command"), tree)
  | .ok ⟨program :: arguments, input⟩ =>
      match Program.run tree program arguments ((input.map Text.encode).getD []) with
      | .error error => (.error (.notRun program error), tree)
      | .ok (finished, tree) =>
          (.ok (replyOf settings program
            (Program.capture settings.timeout settings.outputLimit finished)), tree)

end Signpost.Workflow
