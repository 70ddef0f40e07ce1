import Signpost.Program.Shell.Process

/-! Signals: their names, what they do to a program that does not care, and how they reach it. -/

namespace Signpost.Program.Shell

namespace Signal

def exitName : String := "EXIT"

def count : Nat := 65

def firstFree : Nat := 34

def usual : List (String × String) :=
  [("HUP", "Hangup"), ("INT", "Interrupt"), ("QUIT", "Quit"), ("ILL", "Illegal instruction"),
    ("TRAP", "Trace/breakpoint trap"), ("ABRT", "Aborted"), ("BUS", "Bus error"),
    ("FPE", "Floating point exception"), ("KILL", "Killed"), ("USR1", "User defined signal 1"),
    ("SEGV", "Segmentation fault"), ("USR2", "User defined signal 2"), ("PIPE", "Broken pipe"),
    ("ALRM", "Alarm clock"), ("TERM", "Terminated"), ("16", "Stack fault"),
    ("CHLD", "Child exited"), ("CONT", "Continued"), ("STOP", "Stopped (signal)"),
    ("TSTP", "Stopped"), ("TTIN", "Stopped (tty input)"), ("TTOU", "Stopped (tty output)"),
    ("URG", "Urgent I/O condition"), ("XCPU", "CPU time limit exceeded"),
    ("XFSZ", "File size limit exceeded"), ("VTALRM", "Virtual timer expired"),
    ("PROF", "Profiling timer expired"), ("WINCH", "Window changed"), ("IO", "I/O possible"),
    ("PWR", "Power failure"), ("SYS", "Bad system call"), ("32", "Unknown signal 32"),
    ("33", "Unknown signal 33")]

def name (signal : Nat) : String :=
  if signal = 0 then exitName
  else if signal < firstFree then ((usual[signal - 1]?).map (·.1)).getD ""
  else if signal = firstFree then "RTMIN"
  else if signal < 50 then "RTMIN+" ++ toString (signal - firstFree)
  else if signal < 64 then "RTMAX-" ++ toString (64 - signal)
  else "RTMAX"

def description (signal : Nat) : String :=
  if signal < firstFree then ((usual[signal - 1]?).map (·.2)).getD ""
  else "Real-time signal " ++ toString (signal - firstFree)

def all : List Nat := (List.range count).drop 1

def ofNumber? (text : String) : Option Nat :=
  if !text.isEmpty && text.all Char.isDigit then text.toNat?.filter fun n => decide (n < count) else none

def find? (text : String) (withExit : Bool) : Option Nat :=
  let upper (text : String) : String := text.map Char.toUpper
  (ofNumber? text).or
    ((if withExit then 0 :: all else all).find? fun signal => name signal == upper text)

def kill : Nat := 9
def pipe : Nat := 13
def terminate : Nat := 15
def interrupt : Nat := 2
def quit : Nat := 3

def isHarmless (signal : Nat) : Bool := [0, 17, 18, 23, 28].contains signal

/-- Signals that stop a program until it is told to go on, which nobody does. -/
def stops (signal : Nat) : Bool := [19, 20, 21, 22].contains signal

def isForced (signal : Nat) : Bool := signal == kill || signal == 19

def status (signal : Nat) : Nat := 128 + signal

end Signal

def statusOf : Exit → Nat
  | .code n => n % 256
  | .signal n => Signal.status n

def tellEnd (exit : Exit) : Running Unit :=
  match exit with
  | .signal n =>
      if n == Signal.interrupt || n == Signal.pipe then return ()
      else report (Signal.description n ++ "\n")
  | .code _ => return ()

inductive Effect where
  | nothing
  | ends
  | stops
  | trapped (text : String)
deriving DecidableEq, Repr, Inhabited

def Process.effectOf (p : Process) (signal : Nat) : Effect :=
  let plain : Effect :=
    if Signal.isHarmless signal then .nothing else if Signal.stops signal then .stops else .ends
  if Signal.isForced signal then plain
  else match p.traps.lookup signal with
    | some "" => .nothing
    | some text => .trapped text
    | none => plain

def Process.nextSignal? (p : Process) : Option (Nat × Nat) :=
  let due := p.signals.filter fun (signal, time) =>
    time ≤ p.state.time && p.effectOf signal != .nothing
  (due.mergeSort fun a b => a.2 ≤ b.2).head?

/-- Ends the shell if a signal has come that ends it. Traps are left for later. -/
def heedSignals : Running Unit := do
  let p ← get
  if p.copied || p.signals.isEmpty then return ()
  else match p.nextSignal? with
    | none => return ()
    | some (signal, time) =>
        match p.effectOf signal with
        | .ends =>
            set { p with state := { p.state with time := time } }
            throw (.killed signal)
        | .stops => throw .endless
        | _ => return ()

def send (signal : Nat) (target : Int) : Running Bool := do
  let p ← get
  let now := p.state.time
  if target = p.number || target = 0 then
    set { p with signals := p.signals ++ [(signal, now)] }
    heedSignals
    return true
  else match p.jobs.find? fun job => (job.number : Int) = target with
    | none => return false
    | some job =>
        if job.ends ≤ now || Signal.isHarmless signal then return true
        else
          let stopped : Job := { job with exit := .signal signal, ends := now }
          let world := p.state.world
          let behind := world.chunks.length - job.behind
          let late := (world.chunks.drop behind).take (job.behind - job.before)
          let kept := late.filter fun chunk => chunk.time ≤ now
          let lost := late.length - kept.length
          let chunks :=
            world.chunks.take behind ++ kept ++ world.chunks.drop (behind + late.length)
          let adapted (other : Job) : Job :=
            if other.number == job.number then { stopped with behind := job.behind - lost }
            else if job.behind ≤ other.before then
              { other with before := other.before - lost, behind := other.behind - lost }
            else other
          set { p with
            state := { p.state with world := { world with chunks := chunks } }
            jobs := p.jobs.map adapted }
          return true

/-! Commands for other programs: `kill`, `wait`, `jobs`, `fg` and `bg`. -/

namespace Process

/-- The place of a new job: the first that is free. A job that was waited for leaves its place. -/
def freeSlot (p : Process) : Nat :=
  let kept := p.jobs.filter fun job => !(job.waited && job.ends ≤ p.state.time)
  let slots := kept.map (·.slot)
  ((List.range (slots.length + 1)).find? fun n => !slots.contains (n + 1)).getD 0 + 1

def addJob (p : Process) (job : Job) : Process :=
  { p with
    jobs := job :: p.jobs.filter fun other => other.slot != job.slot
    lastJob := some job.number }

end Process

def jobNamed (name : String) : Running Job := do
  let p ← get
  let (job, complaint) := match name.toList with
    | ['%'] | ['%', '%'] | ['%', '+'] => (p.jobs.head?, "No current job")
    | ['%', '-'] => (p.jobs[1]?, "No previous job")
    | '%' :: digits =>
        ((String.ofList digits).toNat?.bind fun slot => p.jobs.find? fun job => job.slot == slot,
          "No such job: " ++ name)
    | _ => (none, "No such job: " ++ name)
  match job with
  | some job => return job
  | none => fail complaint

def jobLine (p : Process) (job : Job) : String :=
  let mark :=
    if (p.jobs.head?.map (·.slot)) == some job.slot then "+"
    else if (p.jobs[1]?.map (·.slot)) == some job.slot then "-"
    else " "
  let status :=
    if p.state.time < job.ends then "Running"
    else match job.exit with
      | .code 0 => "Done"
      | .code n => "Done(" ++ toString (n % 256) ++ ")"
      | .signal n => Signal.description n
  let text := "[" ++ toString job.slot ++ "] " ++ mark ++ " " ++ status
  text ++ String.ofList (List.replicate (max 1 (33 - text.length)) ' ') ++ "\n"

def showJobs (jobs : List Job) : Running Unit := do
  for job in jobs do
    let p ← get
    emit (jobLine p job)
    if job.ends ≤ p.state.time then
      modify fun p => { p with jobs := p.jobs.filter fun other => other.slot != job.slot }

def listJobs (arguments : List String) : Running Nat := do
  let given ← optionsOf (plainLetters "lp") arguments
  if given.operands.isEmpty then
    let jobs := (← get).jobs
    if given.has 'p' then for job in jobs do emit (toString job.number ++ "\n")
    else showJobs jobs
  else
    for name in given.operands do
      let job ← jobNamed name
      showJobs [job]
  return 0

def moveJob (arguments : List String) : Running Nat := do
  let names ← operandsOf arguments
  let _ ← jobNamed (names.headD "%")
  fail "job (null) not created under job control"

/-- Lets time pass until a moment, or until a signal comes that has a trap. Tells the signal. -/
def waitUntil (time : Nat) : Running (Option Nat) := do
  let p ← get
  let early := p.signals.filter fun (signal, at_) =>
    at_ ≤ time && match p.effectOf signal with
      | .nothing => false
      | _ => true
  match (early.mergeSort fun a b => a.2 ≤ b.2).head? with
  | some (signal, at_) =>
      if p.copied then
        set { p with state := p.state.until_ time }
        return none
      else
        set { p with state := p.state.until_ at_ }
        heedSignals
        return some signal
  | none =>
      set { p with state := p.state.until_ time }
      return none

/-- Waits for the end of a job; gives its status, and whether a signal came before. -/
def waitForJob (job : Job) : Running (Nat × Bool) := do
  match ← waitUntil job.ends with
  | some signal => return (Signal.status signal, true)
  | none =>
      modify fun p =>
        { p with jobs := p.jobs.map fun other =>
            if other.number == job.number then { other with waited := true } else other }
      tellEnd job.exit
      return (statusOf job.exit, false)

def jobFor? (name : String) : Running (Option Job) := do
  if name.startsWith "%" then return some (← jobNamed name)
  else
    let number ← naturalArgument name
    return (← get).jobs.find? fun job => job.number == number

def waitForAll (status : Nat) : List String → Running Nat
  | [] => return status
  | name :: names => do
      match ← jobFor? name with
      | none => waitForAll status names
      | some job =>
          match ← waitForJob job with
          | (status, true) => return status
          | (status, false) => waitForAll status names

def wait (arguments : List String) : Running Nat := do
  match ← operandsOf arguments with
  | [] =>
      let last := ((← get).jobs.map (·.ends)).foldl max 0
      match ← waitUntil last with
      | some signal => return Signal.status signal
      | none =>
          modify fun p => { p with jobs := p.jobs.map fun job => { job with waited := true } }
          return 0
  | names => waitForAll 127 names

namespace Kill

def usage : String :=
  "Usage: kill [-s sigspec | -signum | -sigspec] [pid | job]... or\nkill -l [exitstatus]"

def list : List String → Running Nat
  | [] => do
      emit "0\n"
      for signal in Signal.all do emit (Signal.name signal ++ "\n")
      return 0
  | text :: _ => do
      let n ← naturalArgument text
      let signal := if 128 < n then n - 128 else n
      if signal = 0 || Signal.count ≤ signal then
        fail ("invalid signal number or exit status: " ++ text)
      emit (Signal.name signal ++ "\n")
      return 0

def target (text : String) : Running (Option Int) := do
  if text.startsWith "%" then
    let _ ← jobNamed text
    return none
  else if text.startsWith "-" then
    let n ← naturalArgument (text.drop 1).toString
    return if n = 0 then some 0 else none
  else return some (← naturalArgument text)

def sendAll (signal : Nat) : (status : Nat) → List String → Running Nat
  | status, [] => return status
  | status, text :: rest => do
      let found ← match ← target text with
        | some number => send signal number
        | none => pure false
      if found then sendAll signal status rest
      else
        warn "No such process\n"
        sendAll signal 1 rest

def signalOf (given : Given) : Running (Option Nat) := do
  let mut signal := none
  for (letter, text) in given.options do
    if letter = 's' then
      match Signal.find? text false with
      | some n => signal := some n
      | none => fail ("invalid signal number or name: " ++ text)
  return signal

end Kill

def kill (arguments : List String) : Running Nat := do
  match arguments with
  | [] => fail Kill.usage
  | first :: rest =>
      let plain :=
        if first.startsWith "-" then Signal.find? (first.drop 1).toString false else none
      let (lists, signal, operands) ← match plain with
        | some signal => pure (false, some signal, rest)
        | none => do
            let given ← optionsOf [('l', false), ('s', true)] arguments
            pure (given.has 'l', ← Kill.signalOf given, given.operands)
      let signal := if lists then signal else some (signal.getD Signal.terminate)
      match lists, signal with
      | true, none => Kill.list operands
      | true, some _ => if operands.isEmpty then Kill.list [] else fail Kill.usage
      | false, signal =>
          if operands.isEmpty then fail Kill.usage
          else Kill.sendAll (signal.getD Signal.terminate) 0 operands

end Signpost.Program.Shell
