import Signpost.Program.Basic
import Signpost.Program.Shell.Arithmetic
import Signpost.Program.Shell.Parser

/-! A shell while it runs a script.

Running is a computation that changes the process and may halt it; the changes made until then stay.
What the shell itself prints is gathered and written when the command that prints it is done. -/

namespace Signpost.Program.Shell

inductive Halt where
  /-- A complaint that ends a script. -/
  | failed
  /-- The shell is left by the command for that. -/
  | exiting
  /-- The last command is done, or one has failed that must not. -/
  | done
  /-- Another program has taken the place of the shell and has ended. -/
  | replaced (exit : Exit)
  | killed (signal : Nat)
  /-- The script has run for longer than is looked at. -/
  | endless
deriving DecidableEq, Repr, Inhabited

inductive Skip where
  | nothing
  | leaving (loops : Nat)
  | continuing (loops : Nat)
  /-- The rest of a function or of a file, with a status that was given or not. -/
  | returning (given : Bool)
deriving DecidableEq, Repr, Inhabited

/-- A command that runs beside the shell. Commands are run to their end as they are started, so its
end is known. -/
structure Job where
  number : Nat
  /-- Its place among the jobs of the shell. -/
  slot : Nat
  exit : Exit
  ends : Nat
  /-- Whether its end has been waited for. -/
  waited : Bool := false
  /-- How many chunks there were before it and behind it. -/
  before : Nat
  behind : Nat
deriving DecidableEq, Repr, Inhabited

structure Process where
  state : State
  bindings : Variables
  functions : List (String × Command) := []
  aliases : List (String × String) := []
  documents : List (Nat × Document) := []
  nextDocument : Nat := 0
  /-- The name of the script, by which it also names itself in complaints. -/
  name : String
  number : Nat
  parameters : List String := []
  status : Nat := 0
  /-- The status of the last script inside of a word. -/
  substituted : Nat := 0
  /-- The status that is left if the shell is left now without another one. -/
  saved : Option Nat := none
  line : Nat := 0
  /-- How far the script has been read. -/
  readLine : Nat := 1
  /-- The command of the shell that is being run. -/
  command : Option String := none
  options : List Char := []
  traps : List (Nat × String) := []
  /-- Signals that have come and have not been answered, with the times of their coming. -/
  signals : List (Nat × Nat) := []
  skip : Skip := .nothing
  /-- Open loops and calls. -/
  loops : Nat := 0
  calls : Nat := 0
  /-- Variables of functions that are being run, as they were before. -/
  frames : List (List (String × Option Variable)) := []
  jobs : List Job := []
  lastJob : Option Nat := none
  /-- The number of the next program. -/
  nextNumber : Nat
  /-- What the shell has printed, the latest first. -/
  output : List String := []
  /-- The argument in which options are looked for next, counted from one. -/
  optionIndex : Nat := 1
  /-- How many of its characters have been read. -/
  optionOffset : Option Nat := none
  /-- The permissions that new files do not get. -/
  mask : Nat := 18
  /-- The programs that have been found by their names. -/
  tracked : List (String × String) := []
  /-- How many more steps are looked at. -/
  steps : Nat
  /-- Whether the process is a copy of the shell. -/
  copied : Bool := false

abbrev Running := EStateM Halt Process

namespace Process

def has (p : Process) (option : Char) : Bool := p.options.contains option

def separators (p : Process) : List Char :=
  match p.bindings.value? "IFS" with
  | some text => text.toList
  | none => [' ', '\t', '\n']

def label (p : Process) : String :=
  p.name ++ ": " ++ toString p.line ++ ": " ++
    (p.command.map fun command => command ++ ": ").getD ""

end Process

def report (text : String) : Running Unit :=
  modify fun p => { p with state := p.state.complain text }

def warn (text : String) : Running Unit := do
  report ((← get).label ++ text ++ "\n")

def flush : Running (Option SystemError) := do
  let p ← get
  if p.output.isEmpty then return none
  else
    let (error, state) := p.state.write 1 (String.join p.output.reverse)
    set { p with state := state, output := [] }
    return error

def setStatus (status : Nat) : Running Unit := modify fun p => { p with status := status }

def fail {α : Type} (text : String) : Running α := do
  warn text
  setStatus 2
  let _ ← flush
  throw .failed

def emit (text : String) : Running Unit := modify fun p => { p with output := text :: p.output }

def longestTime : Nat := 10000000

def countStep : Running Unit := do
  let p ← get
  match p.steps with
  | 0 => throw .endless
  | steps + 1 => if longestTime < p.state.time then throw .endless else set { p with steps := steps }

def largestArgument : Nat := Nat.pow 2 31 - 1

def naturalArgument (text : String) : Running Nat := do
  match number? text true with
  | some n => if n < 0 || largestArgument < n then fail ("Illegal number: " ++ text) else return n.toNat
  | none => fail ("Illegal number: " ++ text)

/-- Takes in that a variable is about to change on which the shell depends. -/
def heedVariable (name value : String) : Running Unit := do
  if name = "OPTIND" then
    let n ← naturalArgument value
    modify fun p => { p with optionIndex := max n 1, optionOffset := none }
  else if name = "PATH" then modify fun p => { p with tracked := [] }

def change (name : String) (value : Option String) (marks : Variable → Variable) : Running Unit := do
  let p ← get
  if !isName name then fail (name ++ ": bad variable name")
  else if p.bindings.isReadOnly name then fail (name ++ ": is read only")
  else
    heedVariable name (value.getD "")
    modify fun p =>
      { p with
        bindings := (p.bindings.assign name value).mark name fun v =>
          marks { v with exported := v.exported || (p.has 'a' && value.isSome) } }

def assign (name value : String) : Running Unit := change name (some value) id

def named {α : Type} (command : String) (run : Running α) : Running α := do
  let before := (← get).command
  modify fun p => { p with command := some command }
  let result ← run
  modify fun p => { p with command := before }
  return result

def caught {α : Type} (run : Running α) : Running (Except Halt α) := fun p =>
  match run p with
  | .ok a p => .ok (.ok a) p
  | .error halt p => .ok (.error halt) p

/-- Text in pieces: single quotes between double ones, and all else between single ones. -/
def quotedPieces : (fuel : Nat) → List Char → String
  | 0, _ => ""
  | fuel + 1, text =>
      let plain := text.takeWhile (· != '\'')
      let quotes := (text.drop plain.length).takeWhile (· == '\'')
      let rest := text.drop (plain.length + quotes.length)
      "'" ++ String.ofList plain ++ "'" ++
        (if quotes.isEmpty then "" else "\"" ++ String.ofList quotes ++ "\"") ++
        (if rest.isEmpty then "" else quotedPieces fuel rest)

def singleQuoted (text : String) : String := quotedPieces (text.length + 1) text.toList

/-! Options of the commands of the shell: letters behind a hyphen, in front of all other arguments. -/

abbrev Letters := List (Char × Bool)

def plainLetters (letters : String) : Letters := letters.toList.map fun letter => (letter, false)

structure Given where
  options : List (Char × String) := []
  operands : List String := []
deriving DecidableEq, Repr, Inhabited

namespace Given

def has (given : Given) (letter : Char) : Bool := given.options.any fun option => option.1 == letter

def last? (given : Given) : Option Char := given.options.getLast?.map (·.1)

end Given

structure LetterRow where
  options : List (Char × String) := []
  operands : List String

def readLetters (letters : Letters) (row : LetterRow) : List Char → Running LetterRow
  | [] => return row
  | c :: rest =>
      match letters.lookup c with
      | none => fail ("Illegal option -" ++ String.singleton c)
      | some false => readLetters letters { row with options := row.options ++ [(c, "")] } rest
      | some true =>
          match rest, row.operands with
          | [], [] => fail ("No arg for -" ++ String.singleton c ++ " option")
          | [], argument :: operands =>
              return { options := row.options ++ [(c, argument)], operands := operands }
          | rest, _ => return { row with options := row.options ++ [(c, String.ofList rest)] }

def readOptions (letters : Letters) : (fuel : Nat) → LetterRow → Running Given
  | 0, row => return ⟨row.options, row.operands⟩
  | fuel + 1, row =>
      match row.operands with
      | [] => return ⟨row.options, []⟩
      | argument :: rest =>
          match argument.toList with
          | ['-', '-'] => return ⟨row.options, rest⟩
          | '-' :: c :: more => do
              readOptions letters fuel (← readLetters letters { row with operands := rest } (c :: more))
          | _ => return ⟨row.options, row.operands⟩

def optionsOf (letters : Letters) (arguments : List String) : Running Given :=
  readOptions letters (arguments.length + 1) ⟨[], arguments⟩

def operandsOf (arguments : List String) : Running (List String) :=
  return (← optionsOf [] arguments).operands

/-! Leaving loops, functions and the shell.

`break`, `continue` and `return` only note what is to be skipped. Each command looks at that note before
it goes on, and the loop or the function that is left takes it away. -/

inductive Turn where
  | on
  /-- With its next round. -/
  | next
  | out
  /-- It is left together with a function. -/
  | away
deriving DecidableEq, Repr, Inhabited

def turn : Running Turn := do
  let p ← get
  match p.skip with
  | .nothing => return .on
  | .returning _ => return .away
  | .leaving loops =>
      if loops ≤ 1 then set { p with skip := .nothing } else set { p with skip := .leaving (loops - 1) }
      return .out
  | .continuing loops =>
      if loops ≤ 1 then
        set { p with skip := .nothing }
        return .next
      else
        set { p with skip := .continuing (loops - 1) }
        return .out

def isSkipping : Running Bool := return (← get).skip != .nothing

def skipLoops (skip : Nat → Skip) (arguments : List String) : Running Nat := do
  let n ← match arguments with
    | text :: _ => do
        let n ← naturalArgument text
        if n = 0 then fail ("Illegal number: " ++ text)
        pure n
    | [] => pure 1
  modify fun p => if p.loops = 0 then p else { p with skip := skip (min n p.loops) }
  return 0

def returnNow (arguments : List String) : Running Nat := do
  match arguments with
  | text :: _ => do
      let status ← naturalArgument text
      modify fun p => { p with skip := .returning true }
      return status
  | [] => do
      modify fun p => { p with skip := .returning false }
      return (← get).status

def exitNow (arguments : List String) : Running Nat := do
  match arguments with
  | text :: _ => do
      let status ← naturalArgument text
      modify fun p => { p with saved := some status }
  | [] => pure ()
  throw .exiting

def inLoop {α : Type} (body : Running α) : Running α := do
  modify fun p => { p with loops := p.loops + 1 }
  let result ← body
  modify fun p => { p with loops := p.loops - 1 }
  return result

def repeatUntil {α β : Type} (step : α → Running (α ⊕ β)) : (fuel : Nat) → α → Running β
  | 0, _ => throw .endless
  | fuel + 1, a => do
      match ← step a with
      | .inl a => repeatUntil step fuel a
      | .inr b => return b

def mostRounds : Nat := Nat.pow 2 40

def settleStatus (halt : Halt) : Running Unit :=
  modify fun p =>
    { p with
      status := if halt == .exiting then p.saved.getD p.status else p.status
      saved := none
      skip := .nothing
      loops := 0 }

end Signpost.Program.Shell
