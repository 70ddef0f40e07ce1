import Signpost.Command.Basic
import Signpost.Text.Case
import Signpost.Text.Basic
import Signpost.Value.Reader

/-! Instructions: commands written as text, `verb(argument, …)` or `@name(argument, …)`.

Quotes protect everything between them, and brackets of the three kinds nest without being told
apart. Arguments are separated by the commas outside all quotes and brackets. -/

namespace Signpost.Instruction

inductive Verb where
  | function (name : String)
  | call
  | link
  | openResource
  | readResource
  | run
deriving DecidableEq, Repr, Inhabited

def verbs : List (String × Verb) :=
  [("call", .call), ("link", .link), ("open", .openResource), ("read", .readResource),
    ("run", .run)]

def startsName (c : Char) : Bool := c.isAlpha || c == '_'

def continuesName (c : Char) : Bool := Text.isWord c || c == '.' || c == '-'

def afterParenthesis? (text : List Char) : Option (List Char) :=
  match Text.trimStart text with
  | '(' :: rest => some rest
  | _ => none

def start? (text : List Char) : Option (Verb × List Char) :=
  match Text.trimStart text with
  | '@' :: c :: rest =>
      if startsName c then
        (afterParenthesis? (rest.dropWhile continuesName)).map fun body =>
          (.function (String.ofList (c :: rest.takeWhile continuesName)), body)
      else none
  | text =>
      verbs.findSome? fun (word, verb) =>
        (Text.dropStart? word.toList text).bind fun rest =>
          (afterParenthesis? rest).map fun body => (verb, body)

def isInstruction (text : String) : Bool := (start? text.toList).isSome

def isQuote (c : Char) : Bool := c == '"' || c == '\''

def isOpening (c : Char) : Bool := c == '(' || c == '[' || c == '{'

def isClosing (c : Char) : Bool := c == ')' || c == ']' || c == '}'

/-- Checks that brackets close as often as they open, never earlier, and that quotes close. -/
def checkBalance (depth : Nat) (quote : Option Char) : List Char → Except Flaw Unit
  | [] =>
      if quote.isSome then .error .unterminatedQuote
      else if depth = 0 then .ok () else .error .unbalanced
  | c :: rest =>
      match quote with
      | some q => checkBalance depth (if c = q then none else some q) rest
      | none =>
          if isQuote c then checkBalance depth (some c) rest
          else if isOpening c then checkBalance (depth + 1) none rest
          else if isClosing c then
            match depth with
            | 0 => .error .unbalanced
            | depth + 1 => checkBalance depth none rest
          else checkBalance depth none rest

/-- The pieces between the commas outside quotes and brackets, the current one first. -/
def pieces (depth : Nat) (quote : Option Char) : List Char → List (List Char)
  | [] => [[]]
  | c :: rest =>
      let joined (depth : Nat) (quote : Option Char) : List (List Char) :=
        match pieces depth quote rest with
        | [] => [[c]]
        | first :: others => (c :: first) :: others
      match quote with
      | some q => joined depth (if c = q then none else some q)
      | none =>
          if isQuote c then joined depth (some c)
          else if isOpening c then joined (depth + 1) none
          else if isClosing c then joined (depth - 1) none
          else if c = ',' && depth == 0 then [] :: pieces depth none rest
          else joined depth none

def splitArguments (body : List Char) : Except Flaw (List (List Char)) :=
  if body.all Text.isBlank then .ok []
  else
    let arguments := (pieces 0 none body).map Text.trimChars
    if arguments.any List.isEmpty then .error .emptyArgument else .ok arguments

def unquoteWith (q : Char) (text : List Char) : Option (List Char) :=
  match text with
  | c :: next :: rest =>
      if c = q && (next :: rest).getLast? = some q then some (next :: rest).dropLast else none
  | _ => none

/-- A text without outer blanks and without one pair of quotes around it. -/
def unquote (raw : List Char) : List Char :=
  let text := Text.trimChars raw
  (unquoteWith '"' text).getD ((unquoteWith '\'' text).getD text)

/-- The value of an argument: quoted text, a written value, or else the text itself. -/
def argumentValue (raw : List Char) : Value :=
  match raw with
  | '\'' :: _ | '"' :: _ => .str (String.ofList (unquote raw))
  | _ => (Value.read? (String.ofList raw)).getD (.str (String.ofList raw))

def body (rest : List Char) : Except Flaw (List Char) :=
  let text := Text.trimEnd rest
  if text.getLast? = some ')' then (checkBalance 0 none text.dropLast).map fun _ => text.dropLast
  else .error .unbalanced

def apply (verb : Verb) (inner : List Char) (arguments : List (List Char)) :
    Except Flaw Command :=
  let target : Except Flaw String :=
    let text := unquote inner
    if text.isEmpty then .error .missingArgument else .ok (String.ofList text)
  match verb with
  | .function name => .ok (.call name (arguments.map argumentValue))
  | .call =>
      match arguments with
      | [] => .error .missingName
      | name :: arguments =>
          let name := unquote name
          if name.isEmpty then .error .missingName
          else .ok (.call (String.ofList name) (arguments.map argumentValue))
  | .run =>
      let line := Text.trimChars inner
      if line.isEmpty then .error .missingArgument
      else .ok (.workflow (.str (String.ofList line)))
  | .link => target.map .link
  | .openResource => target.map .openResource
  | .readResource => target.map .readResource

/-- Reads a text as a command. Text that does not begin as an instruction is plain. -/
def read (text : String) : Command :=
  match start? text.toList with
  | none => .plain text
  | some (verb, rest) =>
      let result := do
        let inner ← body rest
        let arguments ← splitArguments inner
        apply verb inner arguments
      match result with
      | .ok command => command
      | .error flaw => .malformed text flaw

end Signpost.Instruction
