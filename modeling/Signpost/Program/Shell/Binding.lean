import Signpost.Program.Shell.Field
import Signpost.Program.Shell.Process

/-! Commands that change variables: `export`, `readonly`, `unset`, `local`, `read` and `getopts`. -/

namespace Signpost.Program.Shell

def bindingOf (text : String) : String × Option String :=
  let name := text.toList.takeWhile (· != '=')
  match text.toList.drop name.length with
  | _ :: value => (String.ofList name, some (String.ofList value))
  | [] => (text, none)

def showVariables (start : String) (wanted : Variable → Bool) : Running Unit := do
  let p ← get
  for name in p.bindings.names do
    match p.bindings.lookup name with
    | some v =>
        if wanted v then
          let value := (v.value.map fun text => "=" ++ singleQuoted text).getD ""
          emit ((if start.isEmpty then "" else start ++ " ") ++ name ++ value ++ "\n")
    | none => pure ()

def markVariables (command : String) (marked : Variable → Variable) (wanted : Variable → Bool)
    (arguments : List String) : Running Nat := do
  let given ← optionsOf (plainLetters "p") arguments
  if given.has 'p' || given.operands.isEmpty then showVariables command wanted
  else
    for text in given.operands do
      match bindingOf text with
      | (name, some value) => change name (some value) marked
      | (name, none) =>
          if ((← get).bindings.lookup name).isSome then
            modify fun p => { p with bindings := p.bindings.mark name marked }
          else change name none marked
  return 0

def exportVariables (arguments : List String) : Running Nat :=
  markVariables "export" (fun v => { v with exported := true }) (·.exported) arguments

def protectVariables (arguments : List String) : Running Nat :=
  markVariables "readonly" (fun v => { v with readOnly := true }) (·.readOnly) arguments

def unsetVariable (name : String) : Running Unit := do
  change name none id
  modify fun p => { p with bindings := drop name p.bindings }

def unset (arguments : List String) : Running Nat := do
  let given ← optionsOf (plainLetters "vf") arguments
  for name in given.operands do
    if given.last? = some 'f' then modify fun p => { p with functions := drop name p.functions }
    else unsetVariable name
  return 0

def remember (name : String) : Running Unit :=
  modify fun p =>
    match p.frames with
    | frame :: frames => { p with frames := ((name, p.bindings.lookup name) :: frame) :: frames }
    | [] => p

def optionsName : String := "-"

def makeLocal (text : String) (marked : Variable → Variable) : Running Unit := do
  let (name, value) := bindingOf text
  if text = optionsName then
    modify fun p =>
      match p.frames with
      | frame :: frames =>
          let kept : Variable := { value := some (String.ofList p.options) }
          { p with frames := ((optionsName, some kept) :: frame) :: frames }
      | [] => p
  else
    remember name
    if value.isSome || ((← get).bindings.lookup name).isNone then change name value marked

def makeAllLocal (arguments : List String) : Running Nat := do
  if (← get).frames.isEmpty then fail "not in a function"
  for text in arguments do makeLocal text id
  return 0

def openFrame : Running Unit := modify fun p => { p with frames := [] :: p.frames }

def closeFrame : Running Unit :=
  modify fun p =>
    match p.frames with
    | [] => p
    | frame :: frames =>
        let back (p : Process) (entry : String × Option Variable) : Process :=
          let (name, before) := entry
          if name = optionsName then
            { p with options := ((before.bind (·.value)).getD "").toList }
          else
            { p with
              bindings := match before with
                | some v => put name v p.bindings
                | none => drop name p.bindings
              tracked := if name = "PATH" then [] else p.tracked }
        frame.foldl back { p with frames := frames }

def readLineFrom (raw : Bool) : (fuel : Nat) → (escaped : Bool) → (done : List (Char × Bool)) →
    Running (List (Char × Bool) × Bool)
  | 0, _, done => return (done.reverse, false)
  | fuel + 1, escaped, done => do
      let p ← get
      match p.state.readSome 0 with
      | .error _ => return (done.reverse, false)
      | .ok (none, s) =>
          set { p with state := s }
          return (done.reverse, false)
      | .ok (some bytes, s) =>
          let (escaped, found, ended, rest) := scan escaped done (Text.rawOf bytes).toList
          set { p with state := s.unread 0 (Text.bytesOf (String.ofList rest)) }
          if ended then return (found.reverse, true) else readLineFrom raw fuel escaped found
where
  /-- Takes in characters up to the end of the line, and returns those behind it. -/
  scan (escaped : Bool) (done : List (Char × Bool)) :
      List Char → Bool × List (Char × Bool) × Bool × List Char
    | [] => (escaped, done, false, [])
    | '\x00' :: rest => scan escaped done rest
    | c :: rest =>
        if escaped then scan false (if c = '\n' then done else (c, true) :: done) rest
        else if c = '\\' && !raw then scan true done rest
        else if c = '\n' then (false, done, true, rest)
        else scan false ((c, false) :: done) rest

def mostInputs : Nat := Nat.pow 2 40

def readVariables (arguments : List String) : Running Nat := do
  let given ← optionsOf [('p', true), ('r', false)] arguments
  if given.operands.isEmpty then fail "arg count"
  let (line, ended) ← readLineFrom (given.has 'r') mostInputs false []
  let fields := lineFields (← get).separators given.operands.length line
  for (name, n) in given.operands.zipIdx do
    assign name (fields[n]?.getD "")
  return if ended then 0 else 1

namespace Options

structure Place where
  /-- The number of the argument behind the current one, counted from one. -/
  index : Nat
  /-- What is left of the current argument. -/
  rest : List Char
deriving DecidableEq, Repr, Inhabited

def next? (arguments : List String) (index : Nat) (offset : Option Nat) : Nat × Option (List Char) :=
  let current := if index ≤ 1 then [] else ((arguments[index - 2]?).map String.toList).getD []
  let left := match offset with
    | some n => current.drop n
    | none => []
  if !left.isEmpty then (index, some left)
  else match (arguments[index - 1]?).map String.toList with
    | some ['-', '-'] => (index + 1, none)
    | some ('-' :: c :: rest) => (index + 1, some (c :: rest))
    | _ => (index, none)

def letter? (known : List Char) (c : Char) : Option Bool :=
  match known with
  | [] => none
  | k :: ':' :: rest => if k == c then some true else letter? rest c
  | k :: rest => if k == c then some false else letter? rest c

end Options

def readOption (known name : String) (arguments : List String) : Running Nat := do
  let p ← get
  let (index, letters) := Options.next? arguments p.optionIndex p.optionOffset
  let quiet := known.toList.head? = some ':'
  let finish (c : Char) (index : Nat) (rest : List Char) (status : Nat) : Running Nat := do
    modify fun p => { p with bindings := p.bindings.assign "OPTIND" (some (toString index)) }
    assign name (String.singleton c)
    let length := ((arguments[index - 2]?).map String.length).getD 0
    modify fun p =>
      { p with
        optionIndex := index
        optionOffset := if rest.isEmpty && letters.isNone then none else some (length - rest.length) }
    return status
  match letters with
  | none => finish '?' index [] 1
  | some [] => finish '?' index [] 1
  | some (c :: rest) =>
      match Options.letter? known.toList c with
      | none =>
          if quiet then assign "OPTARG" (String.singleton c)
          else
            report ("Illegal option -" ++ String.singleton c ++ "\n")
            unsetVariable "OPTARG"
          finish '?' index rest 0
      | some false =>
          assign "OPTARG" ""
          finish c index rest 0
      | some true =>
          match rest, arguments[index - 1]? with
          | [], none =>
              if quiet then
                assign "OPTARG" (String.singleton c)
                finish ':' index [] 0
              else
                report ("No arg for -" ++ String.singleton c ++ " option\n")
                unsetVariable "OPTARG"
                finish '?' index [] 0
          | [], some argument =>
              assign "OPTARG" argument
              finish c (index + 1) [] 0
          | rest, _ =>
              assign "OPTARG" (String.ofList rest)
              finish c index [] 0

def getOptions (arguments : List String) : Running Nat := do
  match ← operandsOf arguments with
  | [known, name] =>
      let p ← get
      if p.parameters.length + 1 < p.optionIndex then
        set { p with optionIndex := 1, optionOffset := none }
      readOption known name p.parameters
  | known :: name :: words =>
      let p ← get
      if words.length + 1 < p.optionIndex then set { p with optionIndex := 1, optionOffset := none }
      readOption known name words
  | _ => fail "Usage: getopts optstring var [arg...]"

end Signpost.Program.Shell
