import Signpost.Program.Shell.Process
import Signpost.Program.Shell.Directory
import Signpost.Program.Shell.Jobs
import Signpost.Program.Shell.Lookup
import Signpost.Program.Shell.Printf
import Signpost.Program.Shell.Expansion
import Signpost.Program.Shell.Test

/-! Running scripts.

Programs that run beside one another are run one after another, each from the time at which it is
started; the shell goes on at the time at which the last one that it waits for has ended. All
functions that run commands take fuel, which bounds how deep commands are nested. -/

namespace Signpost.Program.Shell

structure Flags where
  /-- Whether its status is looked at by another command. -/
  tested : Bool := false
  /-- Whether the shell has nothing to do behind it. -/
  last : Bool := false
deriving DecidableEq, Repr, Inhabited

namespace Process

def hasTraps (p : Process) : Bool := p.traps.any fun (_, text) => !text.isEmpty

def copy (p : Process) : Process :=
  { p with
    copied := true
    traps := p.traps.filter fun (_, text) => text.isEmpty
    signals := []
    jobs := []
    output := []
    nextNumber := p.nextNumber + 1
    state := { p.state with helper := p.state.helper.or (some p.state.time) } }

/-- A shell when another program, which has taken the state as far as that is shared, has ended. -/
def resumed (p q : Process) : Process :=
  { p with
    state := { p.state with world := q.state.world, time := max p.state.time q.state.time }
    steps := q.steps
    nextNumber := q.nextNumber
    signals := if p.number = q.number then p.signals ++ q.signals else p.signals }

def withChannel (p : Process) (descriptor : Nat) (channel : Channel) : Process :=
  { p with state := p.state.setChannel descriptor (some channel) }

def closeDrains (p : Process) (descriptors : List (Nat × Channel)) (time : Nat) : Process :=
  let close (w : World) (entry : Nat × Channel) : World :=
    match entry.2 with
    | .drain id =>
        let pipe := w.pipe id
        w.setPipe id { pipe with closes := max pipe.closes time }
    | _ => w
  { p with state := { p.state with world := descriptors.foldl close p.state.world } }

end Process

def endOf (exit : Option Exit) : Running Nat := do
  match exit with
  | none => throw .endless
  | some exit =>
      tellEnd exit
      heedSignals
      return statusOf exit

structure Row where
  fields : List String
  words : List Word

def firstFields (output : Output) : List Word → Running Row
  | [] => return ⟨[], []⟩
  | word :: words => do
      match ← expandFields output word with
      | [] => firstFields output words
      | fields => return ⟨fields, words⟩

def Row.next? (output : Output) (row : Row) : Running (Option (String × Row)) := do
  let row ← if row.fields.isEmpty then firstFields output row.words else pure row
  match row.fields with
  | [] => return none
  | field :: fields => return some (field, { row with fields := fields })

inductive Behind where
  /-- A command to be run; its program may be looked for at the usual places. -/
  | command (usual : Bool) (row : Row)
  /-- Nothing to be run. The fields seen are given back. -/
  | nothing (row : Row)

/-- Looks behind `command`. `seen` has the fields so far, the latest first. -/
def behindCommand (output : Output) : (fuel : Nat) → (usual : Bool) → (seen : List String) → Row →
    Running Behind
  | 0, _, _, row => return .nothing row
  | fuel + 1, usual, seen, row => do
      match ← row.next? output with
      | none => return .nothing ⟨seen.reverse, []⟩
      | some (field, rest) =>
          let row : Row := ⟨field :: rest.fields, rest.words⟩
          match field.toList with
          | ['-', '-'] =>
              match ← rest.next? output with
              | none => return .nothing ⟨(field :: seen).reverse, []⟩
              | some (name, rest) => return .command usual ⟨name :: rest.fields, rest.words⟩
          | '-' :: 'p' :: letters =>
              if letters.all (· == 'p') then behindCommand output fuel true (field :: seen) rest
              else return .nothing ⟨seen.reverse ++ row.fields, row.words⟩
          | '-' :: _ :: _ => return .nothing ⟨seen.reverse ++ row.fields, row.words⟩
          | _ => return .command usual row

structure Call where
  /-- All words as they are shown. -/
  shown : List String := []
  /-- The name and the arguments. -/
  words : List String := []
  /-- What the name means, unless it is that of a program. -/
  meaning : Option Meaning := none
  /-- Whether the first command of the shell among the words is a special one. -/
  special : Option Bool := none
  /-- Whether assignments hold for the command only. -/
  brief : Bool := false
  /-- Whether programs are looked for at the usual places. -/
  usual : Bool := false

namespace Call

def isExec (call : Call) : Bool :=
  call.words.head? == some "exec" &&
    match call.meaning with
    | some (.own _) => true
    | _ => false

def assigns (call : Call) : Bool :=
  match call.meaning with
  | some (.own _) => assigningCommands.contains (call.words.headD "")
  | _ => false

end Call

def looksAssigned (word : Word) : Bool := (assignedName? word).isSome

def expandRest (output : Output) (assigns : Bool) (words : List Word) : Running (List String) := do
  return (← words.mapM fun word =>
    if assigns && looksAssigned word then return [← expandAssignment output word]
    else expandFields output word).flatten

def resolve (output : Output) : (fuel : Nat) → (functions : Bool) → Call → Row → Running (Call × Row)
  | 0, _, call, row => return (call, row)
  | fuel + 1, functions, call, row => do
      match row.fields with
      | [] => return (call, row)
      | name :: rest =>
          let p ← get
          let meaning := if name.contains '/' then none
            else match if functions then p.functions.lookup name else none with
              | some body => some (Meaning.function body)
              | none =>
                  if specialCommands.contains name then some (.own true)
                  else if ordinaryCommands.contains name then some (.own false)
                  else none
          let call := { call with meaning := meaning }
          match meaning with
          | some (.own special) =>
              let call : Call :=
                if call.special.isNone then { call with special := some special, brief := !special }
                else { call with brief := true }
              if name != "command" then return (call, row)
              else
                match ← behindCommand output (rest.length + row.words.length + 1) call.usual []
                    ⟨rest, row.words⟩ with
                | .nothing row => return (call, ⟨name :: row.fields, row.words⟩)
                | .command usual behind =>
                    let seen := row.fields.take (row.fields.length - behind.fields.length)
                    let call := { call with usual := usual, shown := call.shown ++ seen }
                    resolve output fuel false call behind
          | _ => return ({ call with brief := true }, row)

def callOf (output : Output) (words : List Word) : Running Call := do
  let row ← firstFields output words
  if row.fields.isEmpty then return {}
  let (call, row) ← resolve output (words.length + row.fields.length + 1) true {} row
  let call := { call with words := row.fields }
  let words := row.fields ++ (← expandRest output call.assigns row.words)
  return { call with words := words, shown := call.shown ++ words }

def trace (channel : Option Channel) (texts : List String) : Running Unit := do
  let p ← get
  if p.has 'x' then
    let now := p.state.channel? 2
    let text := p.bindings.text "PS4" ++ Text.join " " texts ++ "\n"
    set { p with state := ((p.state.setChannel 2 channel).complain text).setChannel 2 now }

def closeFrames (depth : Nat) : Running Unit := do
  for _ in List.range ((← get).frames.length - depth) do closeFrame

def ownAction? (name : String) : Option (List String → Running Nat) :=
  match name with
  | ":" | "true" => some fun _ => return 0
  | "false" => some fun _ => return 1
  | "[" => some bracket
  | "alias" => some setAliases
  | "bg" | "fg" => some moveJob
  | "break" => some (skipLoops .leaving)
  | "cd" | "chdir" => some changeDirectory
  | "command" => some describeCommand
  | "continue" => some (skipLoops .continuing)
  | "echo" => some echo
  | "exit" => some exitNow
  | "export" => some exportVariables
  | "getopts" => some getOptions
  | "hash" => some trackPrograms
  | "jobs" => some listJobs
  | "kill" => some kill
  | "local" => some makeAllLocal
  | "printf" => some fun arguments => do printf (← operandsOf arguments)
  | "pwd" => some printDirectory
  | "read" => some readVariables
  | "readonly" => some protectVariables
  | "return" => some returnNow
  | "set" => some setOptions
  | "shift" => some shift
  | "test" => some test
  | "times" => some showTimes
  | "trap" => some trap
  | "type" => some describeAll
  | "ulimit" => some showLimits
  | "umask" => some setMask
  | "unalias" => some dropAliases
  | "unset" => some unset
  | "wait" => some wait
  | _ => none

def runnable (s : State) (path : String) : Except SystemError Unit :=
  match s.find path with
  | .ok .program => .ok ()
  | .ok _ => .error .denied
  | .error error => .error error

def pathOf (p : Process) (usual : Bool) (name : String) : Except SystemError String :=
  if name.contains '/' then (runnable p.state name).map fun () => name
  else
    programIn p.state .notFound (searched (if usual then usualSearch else p.search) name)

def scriptPath (name : String) : Running String := do
  if name.contains '/' then return name
  else
    let p ← get
    let isFile (path : String) : Bool := match p.state.find path with
      | .ok (.file _) | .ok .program => true
      | _ => false
    match (searched p.search name).find? isFile with
    | some path => return path
    | none => fail (name ++ ": not found")

def readRest (descriptor : Nat) : Running String :=
  repeatUntil (fun done => do
    let p ← get
    match p.state.readSome descriptor with
    | .error _ => return .inr (String.join done.reverse)
    | .ok (none, s) =>
        set { p with state := s }
        return .inr (String.join done.reverse)
    | .ok (some bytes, s) =>
        set { p with state := s }
        return .inl (Text.rawOf bytes :: done)) mostRounds ([] : List String)

def scriptDescriptor : Nat := 10

def readScript (path : String) : Running String := do
  let p ← get
  match p.state.openPath path .read with
  | .error error => fail ("cannot open " ++ path ++ ": " ++ openingMessage false error)
  | .ok (channel, s) =>
      let before := s.channel? scriptDescriptor
      set { p with state := s.setChannel scriptDescriptor (some channel) }
      let text ← readRest scriptDescriptor
      modify fun p => { p with state := p.state.setChannel scriptDescriptor before }
      return text

def startVariables (directory : String) (parent : Nat) (environment : Variables) : Variables :=
  let usual (name value : String) (bindings : Variables) : Variables :=
    if (bindings.lookup name).isSome then bindings else bindings.assign name (some value)
  let exported (v : Variable) : Variable := { v with exported := true }
  let inherited := environment.filter fun (name, v) => isName name && v.exported && v.value.isSome
  let named := usual "PS1" "# " (usual "PS2" "> " (usual "PS4" "+ " (usual "PATH" usualSearch inherited)))
  (((((named.assign "IFS" (some " \t\n")).assign "OPTIND" (some "1")).assign "PPID"
    (some (toString parent))).assign "PWD" (some (Text.toRaw directory))).mark "PWD" exported).map
      fun (name, v) => (name, { v with readOnly := false })

def Process.start (name : String) (number parent steps : Nat) (environment : Variables) (state : State) :
    Process :=
  { state := state
    bindings := startVariables state.directory parent environment
    name := name
    number := number
    nextNumber := number + 1
    steps := steps }

/-- A part of the script that runs beside the shell is not stopped from outside. -/
def quietTraps (traps : List (Nat × String)) : List (Nat × String) :=
  put Signal.interrupt "" (put Signal.quit "" traps)

def noteJob (p q : Process) (exit : Option Exit) (time : Nat) : Running Unit := do
  let ends := if exit.isSome then time else Sleep.forever
  let job : Job :=
    { number := q.nextNumber
      slot := p.freeSlot
      exit := exit.getD (.signal Signal.terminate)
      ends := ends
      before := p.state.world.chunks.length
      behind := q.state.world.chunks.length }
  let next := p.resumed { q with nextNumber := q.nextNumber + 1, steps := p.steps }
  let next := next.closeDrains q.state.descriptors ends
  set { next.addJob job with state := { next.state with time := p.state.time } }

def inHelper {α : Type} (body : Running α) : Running α := do
  let p ← get
  set { p with state := { p.state with helper := p.state.helper.or (some p.state.time) } }
  let result ← body
  modify fun q => { q with state := { q.state with helper := p.state.helper } }
  return result

def cannotRun (name : String) (error : SystemError) : Running Nat := do
  warn (name ++ ": " ++ runningMessage error)
  setStatus (runningStatus error)
  throw .done

def caseFor (output : Output) (text : List Char) :
    List (List Word × Option Command) → Running (Option Command)
  | [] => return none
  | (patterns, body) :: cases => do
      let found ← patterns.anyM fun pattern => do
        return Pattern.covers (← expandPattern output pattern) text
      if found then return body else caseFor output text cases

def trackStage : Command → Running Unit
  | .simple _ _ (word :: _) _ =>
      match plainText? word with
      | none => return ()
      | some name => do
          if isName name then
            match (← get).meaning true none name with
            | .program path => track name path
            | _ => pure ()
  | _ => return ()

def deepestCall : Nat := 1000

mutual

def evaluate : (fuel : Nat) → Flags → Command → Running Nat
  | 0, _, _ => throw .endless
  | fuel + 1, flags, command => do
      if !(← get).has 'n' then
        answerSignals fuel
        let (status, checked) ← evaluateForm fuel flags command
        match status with
        | some status => setStatus status
        | none => pure ()
        answerSignals fuel
        if checked && !flags.tested then
          let p ← get
          if p.status != 0 && p.has 'e' then throw .done
      if flags.last then throw .done
      return (← get).status

/-- Runs a command by its form. Gives its status, or none if that stays as it is; and whether a failure
can end the shell. -/
def evaluateForm : (fuel : Nat) → Flags → Command → Running (Option Nat × Bool)
  | 0, _, _ => throw .endless
  | fuel + 1, flags, command => do
      match command with
      | .simple line assignments words redirections =>
          return (some (← runSimple fuel flags line assignments words redirections), true)
      | .pipe stages background => return (some (← runPipe fuel flags background stages), true)
      | .subshell line body redirections =>
          return (some (← runSubshell fuel flags line body redirections), true)
      | .background body => return (some (← runBackground fuel body), true)
      | .negated body =>
          let status ← evaluate fuel { tested := true } body
          if ← isSkipping then return (some status, false)
          return (some (if status = 0 then 1 else 0), false)
      | .redirected line body redirections =>
          return (some (← runRedirected fuel flags line body redirections), false)
      | .sequence first second =>
          let _ ← evaluate fuel { tested := flags.tested } first
          if ← isSkipping then return (none, false)
          return (some (← evaluate fuel flags second), false)
      | .both first second =>
          let status ← evaluate fuel { tested := true } first
          if status != 0 || (← isSkipping) then return (none, false)
          return (some (← evaluate fuel flags second), false)
      | .either first second =>
          let status ← evaluate fuel { tested := true } first
          if status = 0 || (← isSkipping) then return (none, false)
          return (some (← evaluate fuel flags second), false)
      | .choice condition thenPart elsePart =>
          let status ← evaluate fuel { tested := true } condition
          if ← isSkipping then return (none, false)
          if status = 0 then return (some (← evaluate fuel flags thenPart), false)
          match elsePart with
          | some elsePart => return (some (← evaluate fuel flags elsePart), false)
          | none => return (some 0, false)
      | .loop holds condition body =>
          return (some (← inLoop (runLoop fuel flags holds condition body)), false)
      | .each line name words body => return (some (← runEach fuel flags line name words body), false)
      | .select line word cases => return (some (← runSelect fuel flags line word cases), false)
      | .define name body =>
          modify fun p => { p with functions := put name body p.functions }
          return (some 0, false)

def answerSignals : (fuel : Nat) → Running Unit
  | 0 => throw .endless
  | fuel + 1 => do
      let p ← get
      if p.signals.isEmpty || p.copied then return ()
      heedSignals
      repeatUntil (fun () => do
        let p ← get
        match p.nextSignal?, p.skip with
        | some (signal, _), .nothing =>
            set { p with signals := p.signals.filter fun (other, time) =>
              other != signal || p.state.time < time }
            match p.effectOf signal with
            | .trapped text => do
                let status := p.saved.getD p.status
                let last := p.saved
                modify fun p => { p with saved := some status }
                let _ ← runText fuel {} text
                modify fun p =>
                  { p with
                    saved := last
                    status := if p.skip == .returning true then p.status else status }
            | _ => pure ()
            return .inl ()
        | _, _ => return .inr ()) mostRounds ()

def runText : (fuel : Nat) → Flags → String → Running Nat
  | 0, _, _ => throw .endless
  | fuel + 1, flags, text => do
      let before := (← get).readLine
      let status ← repeatUntil (fun ((reader : Reader), (status : Nat)) => do
        countStep
        let p ← get
        let reader : Reader :=
          { reader with aliases := p.aliases, nextDocument := p.nextDocument, documents := [] }
        match readCommandLine reader with
        | .error fault => do
            set { p with line := fault.line, readLine := fault.line }
            fail fault.message
        | .ok .endOfScript => return .inr status
        | .ok (.nothing reader) => return .inl (reader, status)
        | .ok (.command command reader) => do
            set { p with
              documents := reader.documents ++ p.documents
              nextDocument := reader.nextDocument
              readLine := reader.line }
            let isLast := match reader.pushed with
              | some .endOfFile => true
              | _ => false
            let status ← evaluate fuel { flags with last := flags.last && isLast } command
            if ← isSkipping then return .inr status else return .inl (reader, status))
        mostRounds (({ input := text.toList } : Reader), 0)
      modify fun p => { p with readLine := before }
      return status

def untilEnd : (fuel : Nat) → Running Nat → Process → Option Exit × Process
  | 0, _, p => (none, p)
  | fuel + 1, body, p =>
      let finish (p : Process) : Option Exit × Process := (some (.code (p.status % 256)), p)
      let ended (halt : Halt) (p : Process) (other : Process → Option Exit × Process) :
          Option Exit × Process :=
        match halt with
        | .killed signal => (some (.signal signal), p)
        | .endless => (none, p)
        | .replaced exit => (some exit, p)
        | .failed | .exiting | .done => other p
      let leave (halt : Halt) (p : Process) : Option Exit × Process :=
        let p := match (closeFrames 0 *> settleStatus halt).run p with
          | .ok _ p | .error _ p => p
        match p.traps.lookup 0 with
        | none => finish p
        | some text =>
            let status := p.status
            match runText fuel {} text
                { p with traps := drop 0 p.traps, saved := some status, command := none } with
            | .ok _ p => finish { p with status := p.saved.getD status }
            | .error halt p =>
                ended halt p fun p =>
                  finish (if halt == .exiting then { p with status := p.saved.getD p.status } else p)
      match body p with
      | .ok _ p => leave .done p
      | .error halt p => ended halt p (leave halt)

/-- Runs a part of the script in a copy of the shell and waits for its end. -/
def inCopy : (fuel : Nat) → (change : Process → Process) → Running Nat → Running (Option Exit)
  | 0, _, _ => throw .endless
  | fuel + 1, change, body => do
      let p ← get
      let (exit, q) := untilEnd fuel body (change p.copy)
      set ((p.resumed q).closeDrains q.state.descriptors q.state.time)
      return exit

/-- Runs a script inside of a word; gives what it prints. -/
def substitute : (fuel : Nat) → Output
  | 0 => fun _ => throw .endless
  | fuel + 1 => fun command => do
      let p ← get
      let (id, world) := p.state.world.newPipe {}
      set { p with state := { p.state with world := world } }
      let exit ← inCopy fuel (fun copy => copy.withChannel 1 (.drain id))
        (evaluate fuel { last := true } command)
      let pipe := (← get).state.world.pipe id
      modify fun p =>
        { p with state := { p.state.until_ pipe.closes with world := p.state.world.dropPipe id } }
      let text := Text.rawOf pipe.bytes
      let status ← endOf exit
      modify fun p => { p with substituted := status }
      return text

def runSubshell : (fuel : Nat) → Flags → (line : Nat) → Command → List Redirection → Running Nat
  | 0, _, _, _, _ => throw .endless
  | fuel + 1, flags, line, body, redirections => do
      modify fun p => { p with line := line }
      let output := substitute fuel
      let prepared ← redirections.mapM (prepare output)
      let inside : Running Nat := do
        prepared.forM (redirectOne output)
        evaluate fuel { flags with last := true } body
      if flags.last && !(← get).hasTraps then return (← inside)
      return (← endOf (← inCopy fuel id inside))

def runRedirected : (fuel : Nat) → Flags → (line : Nat) → Command → List Redirection → Running Nat
  | 0, _, _, _, _ => throw .endless
  | fuel + 1, flags, line, body, redirections => do
      modify fun p => { p with line := line }
      let output := substitute fuel
      let prepared ← redirections.mapM (prepare output)
      let replaced := replacedBy (← get) prepared
      let run : Running Nat := do
        if ← redirectAll output prepared then evaluate fuel { tested := flags.tested } body
        else return 2
      match ← caught run with
      | .ok status =>
          putBack replaced
          return status
      | .error halt =>
          putBack replaced
          throw halt

/-- Starts a part of the script that runs beside the shell. -/
def runBackground : (fuel : Nat) → Command → Running Nat
  | 0, _ => throw .endless
  | fuel + 1, body => do
      let p ← get
      let copy := p.copy.withChannel 0 .nowhere
      let (exit, q) := untilEnd fuel (evaluate fuel { last := true } body)
        { copy with steps := p.steps / 2, traps := quietTraps copy.traps }
      noteJob p q exit q.state.time
      return 0

def runPipe : (fuel : Nat) → Flags → (background : Bool) → List Command → Running Nat
  | 0, _, _, _ => throw .endless
  | fuel + 1, flags, background, stages => do
      let p ← get
      let input := if background then some Channel.nowhere else none
      let (exits, ends) ← runStages fuel flags p.state.time input stages
      if background then
        let q ← get
        noteJob p { q with signals := q.signals.drop p.signals.length }
          (exits.getLast?.getD none) ends
        return 0
      else
        modify fun p => { p with state := p.state.until_ ends }
        for exit in exits.dropLast do tellEnd (exit.getD (.signal Signal.pipe))
        endOf (exits.getLast?.getD none)

/-- Runs the stages of a pipe from the same time on, each with what the one before has written. Gives how
they end and when the last of them has ended. -/
def runStages : (fuel : Nat) → Flags → (time : Nat) → (input : Option Channel) → List Command →
    Running (List (Option Exit) × Nat)
  | 0, _, _, _, _ => throw .endless
  | _, _, time, _, [] => return ([], time)
  | fuel + 1, flags, time, input, stage :: stages => do
      trackStage stage
      let p ← get
      let (id, world) := p.state.world.newPipe {}
      let isLast := stages.isEmpty
      if !isLast then set { p with state := { p.state with world := world } }
      let change (copy : Process) : Process :=
        let copy := (input.map fun channel => copy.withChannel 0 channel).getD copy
        let copy := if isLast then copy else copy.withChannel 1 (.drain id)
        { copy with
          steps := if isLast then copy.steps else copy.steps / 2
          state := { copy.state with time := time } }
      let steps := p.steps
      let exit ← inCopy fuel change (evaluate fuel { flags with last := true } stage)
      let after ← get
      let ended := if exit.isSome || isLast then after.state.time else time
      modify fun p =>
        { p with
          steps := if isLast then p.steps else steps - 1
          state :=
            { p.state with
              time := time
              world := match input with
                | some (.source pipe) => p.state.world.dropPipe pipe
                | _ => p.state.world } }
      let (exits, ends) ← runStages fuel flags time (some (.source id)) stages
      return (exit :: exits, max ended ends)

def runLoop : (fuel : Nat) → Flags → (holds : Bool) → (condition body : Command) → Running Nat
  | 0, _, _, _, _ => throw .endless
  | fuel + 1, flags, holds, condition, body =>
      repeatUntil (fun status => do
        countStep
        let found ← evaluate fuel { tested := true } condition
        match ← turn with
        | .next => return .inl status
        | .out => return .inr status
        | .away => return .inr found
        | .on =>
            if (found == 0) != holds then return .inr status
            else
              let status ← evaluate fuel { tested := flags.tested } body
              match ← turn with
              | .on | .next => return .inl status
              | _ => return .inr status) mostRounds 0

def runEach : (fuel : Nat) → Flags → (line : Nat) → (name : String) → List Word → Command → Running Nat
  | 0, _, _, _, _, _ => throw .endless
  | fuel + 1, flags, line, name, words, body => do
      modify fun p => { p with line := line }
      let fields := (← words.mapM (expandFields (substitute fuel))).flatten
      inLoop (repeatUntil (fun ((fields : List String), (status : Nat)) => do
        match fields with
        | [] => return .inr status
        | field :: fields =>
            countStep
            assign name field
            let status ← evaluate fuel { tested := flags.tested } body
            match ← turn with
            | .on | .next => return .inl (fields, status)
            | _ => return .inr status) mostRounds (fields, 0))

def runSelect : (fuel : Nat) → Flags → (line : Nat) → Word → List (List Word × Option Command) →
    Running Nat
  | 0, _, _, _, _ => throw .endless
  | fuel + 1, flags, line, word, cases => do
      modify fun p => { p with line := line }
      let output := substitute fuel
      let text ← expandText output {} word
      match ← caseFor output text.toList cases with
      | some body => evaluate fuel flags body
      | none => return 0

def runSimple : (fuel : Nat) → Flags → (line : Nat) → (assignments words : List Word) →
    List Redirection → Running Nat
  | 0, _, _, _, _, _ => throw .endless
  | fuel + 1, flags, line, assignments, words, redirections => do
      countStep
      modify fun p => { p with line := line, substituted := 0 }
      let output := substitute fuel
      let call ← callOf output words
      let depth := (← get).frames.length
      if call.brief then openFrame
      let prepared ← redirections.mapM (prepare output)
      let p ← get
      let replaced := replacedBy p prepared
      let body : Running (Nat × Bool) := do
        if ← redirectAll output prepared then
          let texts ← assignments.mapM fun word => do
            let text ← expandAssignment output word
            if call.brief then makeLocal text fun v => { v with exported := true }
            else
              let (name, value) := bindingOf text
              change name (some (value.getD "")) fun v =>
                if call.isExec && 1 < call.words.length then { v with exported := true } else v
            return text
          trace (p.state.channel? 2) (texts ++ call.shown)
          return (← runCall fuel flags call, true)
        else
          setStatus 2
          if call.special == some true then throw .failed
          return (2, false)
      match ← caught body with
      | .ok (status, redirected) =>
          if !(redirected && call.isExec) then putBack replaced
          closeFrames depth
          return status
      | .error halt =>
          putBack replaced
          closeFrames depth
          throw halt

def runCall : (fuel : Nat) → Flags → Call → Running Nat
  | 0, _, _ => throw .endless
  | fuel + 1, flags, call => do
      match call.words with
      | [] => return (← get).substituted
      | name :: arguments =>
          match call.meaning with
          | some (.own _) => runOwn fuel flags (call.special == some true) name arguments
          | some (.function body) => callFunction fuel flags body arguments
          | _ =>
              let p ← get
              match pathOf p call.usual name with
              | .error error =>
                  if name.contains '/' then
                    if flags.last && !p.hasTraps then cannotRun name error else inHelper (do
                      warn (name ++ ": " ++ runningMessage error)
                      return runningStatus error)
                  else
                    warn (name ++ ": " ++ runningMessage error)
                    return 127
              | .ok path =>
                  if !name.contains '/' && !call.usual then track name path
                  if flags.last && !p.hasTraps then become fuel path name arguments
                  else endOf (← inHelper (runProgram fuel path name arguments))

def callFunction : (fuel : Nat) → Flags → Command → (arguments : List String) → Running Nat
  | 0, _, _, _ => throw .endless
  | fuel + 1, flags, body, arguments => do
      let p ← get
      if deepestCall ≤ p.calls then fail "Maximum function recursion depth (1000) reached"
      set { p with
        parameters := arguments
        calls := p.calls + 1
        loops := 0
        optionIndex := 1
        optionOffset := none }
      let result ← caught (evaluate fuel { tested := flags.tested } body)
      modify fun q =>
        { q with
          parameters := p.parameters
          calls := p.calls
          loops := p.loops
          optionIndex := p.optionIndex
          optionOffset := p.optionOffset
          skip := match q.skip with
            | .returning _ => .nothing
            | skip => skip }
      match result with
      | .ok status => return status
      | .error halt => throw halt

def runOwn : (fuel : Nat) → Flags → (special : Bool) → (name : String) → (arguments : List String) →
    Running Nat
  | 0, _, _, _, _ => throw .endless
  | fuel + 1, flags, special, name, arguments => do
      let before := (← get).command
      modify fun p => { p with command := some name }
      let action : Running Nat := do
        let status ← match name with
          | "." => runFile fuel arguments
          | "eval" =>
              if arguments.isEmpty then pure 0
              else runText fuel { tested := flags.tested } (Text.join " " arguments)
          | "exec" => runInstead fuel arguments
          | name => match ownAction? name with
              | some action => action arguments
              | none => pure 0
        match ← flush with
        | none => return status
        | some _ =>
            warn (name ++ ": I/O error")
            return status ||| 1
      match ← caught action with
      | .ok status =>
          modify fun p => { p with command := before }
          return status
      | .error halt =>
          modify fun p => { p with command := before, output := [] }
          if halt == .failed && !special then return (← get).status
          else throw halt

def runFile : (fuel : Nat) → (arguments : List String) → Running Nat
  | 0, _ => throw .endless
  | fuel + 1, arguments => do
      match ← operandsOf arguments with
      | [] => return 0
      | name :: _ =>
          let path ← scriptPath name
          let text ← readScript path
          modify fun p => { p with command := some path }
          let status ← runText fuel {} text
          modify fun p =>
            { p with
              skip := match p.skip with
                | .returning _ => .nothing
                | skip => skip }
          return status

def runInstead : (fuel : Nat) → (arguments : List String) → Running Nat
  | 0, _ => throw .endless
  | fuel + 1, arguments => do
      match ← operandsOf arguments with
      | [] => return 0
      | name :: arguments =>
          match pathOf (← get) false name with
          | .ok path => become fuel path name arguments
          | .error error => cannotRun name error

def become : (fuel : Nat) → (path name : String) → (arguments : List String) → Running Nat
  | 0, _, _, _ => throw .endless
  | fuel + 1, path, name, arguments => do
      match ← runProgram fuel path name arguments with
      | some exit => throw (.replaced exit)
      | none => throw .endless

def runProgram : (fuel : Nat) → (path name : String) → (arguments : List String) →
    Running (Option Exit)
  | 0, _, _, _ => throw .endless
  | fuel + 1, path, name, arguments => do
      let p ← get
      match programAt? path p.state with
      | some "sh" =>
          let child := Process.start name p.nextNumber p.number p.steps p.bindings p.state
          let (exit, q) := runShell fuel arguments child
          set ((p.resumed q).closeDrains q.state.descriptors q.state.time)
          return exit
      | some program =>
          match action? program with
          | some action =>
              let (exit, s) := action name arguments p.state
              set { p with state := { p.state with world := s.world, time := s.time } }
              return some exit
          | none => return some (.code 126)
      | none => return some (.code 126)

def runShell : (fuel : Nat) → (arguments : List String) → Process → Option Exit × Process
  | 0, _, p => (none, p)
  | fuel + 1, arguments, p =>
      untilEnd fuel (do
        let settled ← takeOptions ['c', 'l'] (arguments.length + 1) { operands := arguments }
        if settled.special.contains 'c' then
          match settled.operands with
          | [] => fail "-c requires an argument"
          | text :: rest =>
              modify fun p => { p with name := rest.headD p.name, parameters := rest.drop 1 }
              runText fuel { last := true } text
        else
          match settled.operands, (← get).has 's' with
          | file :: rest, false =>
              let text ← readScript file
              modify fun p => { p with name := file, parameters := rest }
              runText fuel {} text
          | parameters, _ =>
              modify fun p => { p with options := switched p.options 's' true, parameters := parameters }
              let text ← readRest 0
              runText fuel {} text) p

end

end Signpost.Program.Shell
