import Signpost.Program.Shell.Binding
import Signpost.Program.Shell.Jobs

/-! Commands that change how the shell works: `set`, `shift`, `trap`, `alias`, `unalias`, `umask`,
`ulimit` and `times`. -/

namespace Signpost.Program.Shell

def optionNames : List (String × Char) :=
  [("errexit", 'e'), ("noglob", 'f'), ("ignoreeof", 'I'), ("interactive", 'i'), ("monitor", 'm'),
    ("noexec", 'n'), ("stdin", 's'), ("xtrace", 'x'), ("verbose", 'v'), ("vi", 'V'), ("emacs", 'E'),
    ("noclobber", 'C'), ("allexport", 'a'), ("notify", 'b'), ("nounset", 'u'), ("privileged", 'p'),
    ("nolog", '\x01'), ("debug", '\x02')]

def switched (options : List Char) (letter : Char) (on : Bool) : List Char :=
  let others := options.filter fun other => other != letter
  if !on then others
  else
    let excluded := if letter = 'V' then 'E' else if letter = 'E' then 'V' else letter
    letter :: others.filter fun other => other != excluded

def setLetter (on : Bool) (letter : Char) : Running Unit := do
  if letter.isAlpha && (optionNames.any fun (_, known) => known == letter) then
    modify fun p => { p with options := switched p.options letter on }
  else fail ("Illegal option -" ++ String.singleton letter)

/-- Turns an option on or off by its name, or shows all options. While the shell is starting, options of
which nothing is known yet are shown as on. -/
def setNamed (starting on : Bool) : Option String → Running Unit
  | some name =>
      match optionNames.lookup name with
      | some letter => modify fun p => { p with options := switched p.options letter on }
      | none => fail ("Illegal option -o " ++ name)
  | none => do
      let p ← get
      if on then emit "Current option settings\n"
      for (name, letter) in optionNames do
        if on then
          let blanks := String.ofList (List.replicate (16 - name.length) ' ')
          emit (name ++ blanks ++ (if starting || p.has letter then "on" else "off") ++ "\n")
        else emit ("set " ++ (if starting || p.has letter then "-o " else "+o ") ++ name ++ "\n")

/-- Takes in the letters of an argument; those that need a name take the arguments behind it. `special`
are letters with a meaning of their own. -/
def setLetters (special : List Char) (on : Bool) : (found : List Char) → (operands : List String) →
    List Char → Running (List Char × List String)
  | found, operands, [] => return (found, operands)
  | found, operands, 'o' :: rest => do
      setNamed (!special.isEmpty) on operands.head?
      setLetters special on found operands.tail rest
  | found, operands, c :: rest => do
      if special.contains c then setLetters special on (c :: found) operands rest
      else
        setLetter on c
        setLetters special on found operands rest

structure Settled where
  operands : List String
  /-- Whether options have ended at two hyphens. -/
  ended : Bool := false
  /-- Letters with a meaning of their own. -/
  special : List Char := []

def takeOptions (special : List Char) : (fuel : Nat) → Settled → Running Settled
  | 0, settled => return settled
  | fuel + 1, settled => do
      match settled.operands with
      | [] => return settled
      | argument :: rest =>
          match argument.toList with
          | ['-'] =>
              if special.isEmpty then
                setLetter false 'x'
                setLetter false 'v'
              return { settled with operands := rest }
          | ['-', '-'] => return { settled with operands := rest, ended := true }
          | sign :: letters =>
              if sign = '-' || sign = '+' then
                let (found, rest) ← setLetters special (sign = '-') settled.special rest letters
                takeOptions special fuel { settled with operands := rest, special := found }
              else return settled
          | [] => return settled

def setParameters (parameters : List String) : Running Unit :=
  modify fun p => { p with parameters := parameters, optionIndex := 1, optionOffset := none }

def setOptions (arguments : List String) : Running Nat := do
  if arguments.isEmpty then showVariables "" (·.value.isSome)
  else
    let settled ← takeOptions [] (arguments.length + 1) { operands := arguments }
    if settled.ended || !settled.operands.isEmpty then setParameters settled.operands
  return 0

def shift (arguments : List String) : Running Nat := do
  let n ← match arguments with
    | text :: _ => naturalArgument text
    | [] => pure 1
  let p ← get
  if p.parameters.length < n then fail "can't shift that many"
  setParameters (p.parameters.drop n)
  return 0

def setTrap (signal : Nat) (text : Option String) : Running Unit :=
  modify fun p =>
    { p with
      traps := match text with
        | some text => put signal text p.traps
        | none => drop signal p.traps }

def setTraps (text : Option String) : List String → Running Nat
  | [] => return 0
  | name :: names =>
      match Signal.find? name true with
      | some signal => do
          setTrap signal text
          setTraps text names
      | none => do
          report ("trap: " ++ name ++ ": bad trap\n")
          return 1

def trap (arguments : List String) : Running Nat := do
  match ← operandsOf arguments with
  | [] =>
      let traps := (← get).traps
      for signal in List.range Signal.count do
        match traps.lookup signal with
        | some text => emit ("trap -- " ++ singleQuoted text ++ " " ++ Signal.name signal ++ "\n")
        | none => pure ()
      return 0
  | [name] => setTraps none [name]
  | first :: names =>
      if (Signal.ofNumber? first).isSome then setTraps none (first :: names)
      else setTraps (if first = "-" then none else some first) names

def aliasRows : Nat := 39

def rowOf (rows : Nat) (name : String) : Nat :=
  ((name.toList.headD '\x00').toNat * 16 + (name.toList.map Char.toNat).foldl (· + ·) 0) % rows

def aliasText (name value : String) : String := name ++ "=" ++ singleQuoted value

def setAlias (name value : String) (aliases : List (String × String)) : List (String × String) :=
  if (aliases.lookup name).isSome then
    aliases.map fun (other, before) => (other, if other == name then value else before)
  else aliases ++ [(name, value)]

/-- An equals sign that is not the first character separates a name from a value. -/
def aliasBinding (text : String) : Option (String × String) :=
  match text.toList with
  | [] => none
  | c :: rest =>
      let name := rest.takeWhile (· != '=')
      match rest.drop name.length with
      | _ :: value => some (String.ofList (c :: name), String.ofList value)
      | [] => none

def setAliases (arguments : List String) : Running Nat := do
  if arguments.isEmpty then
    let aliases := (← get).aliases
    for row in List.range aliasRows do
      for (name, value) in aliases do
        if rowOf aliasRows name == row then emit (aliasText name value ++ "\n")
    return 0
  else
    arguments.foldlM (fun status text => do
      match aliasBinding text with
      | some (name, value) =>
          modify fun p => { p with aliases := setAlias name value p.aliases }
          return status
      | none =>
          match (← get).aliases.lookup text with
          | some value =>
              emit (aliasText text value ++ "\n")
              return status
          | none =>
              report ("alias: " ++ text ++ " not found\n")
              return 1) 0

def dropAliases (arguments : List String) : Running Nat := do
  let given ← optionsOf (plainLetters "a") arguments
  if given.has 'a' then
    modify fun p => { p with aliases := [] }
    return 0
  else
    given.operands.foldlM (fun status name => do
      let p ← get
      if (p.aliases.lookup name).isSome then
        set { p with aliases := drop name p.aliases }
        return status
      else
        report ("unalias: " ++ name ++ " not found\n")
        return 1) 0

namespace Mask

def classes (mask : Nat) : List (Char × Nat) :=
  [('u', mask / 64 % 8), ('g', mask / 8 % 8), ('o', mask % 8)]

def letters : List (Char × Nat) := [('r', 4), ('w', 2), ('x', 1)]

def bit (n place : Nat) : Bool := n / place % 2 == 1

def symbolic (mask : Nat) : String :=
  Text.join "," ((classes mask).map fun (name, masked) =>
    String.singleton name ++ "=" ++
      String.ofList ((letters.filter fun (_, place) => !bit masked place).map (·.1)))

def octal (mask : Nat) : String :=
  "0" ++ String.ofList ((classes mask).map fun (_, masked) => Nat.digitChar masked)

def applied (sign : Char) (permissions left : Nat) : Nat :=
  let places := [4, 2, 1]
  let value (keep : Nat → Bool) : Nat :=
    places.foldl (fun n place => if keep place then n + place else n) 0
  match sign with
  | '+' => value fun place => bit left place || bit permissions place
  | '-' => value fun place => bit left place && !bit permissions place
  | _ => permissions

def permissions? (left : List (Char × Nat)) (text : List Char) : Option Nat :=
  let copied := match text with
    | [name] => left.lookup name
    | _ => none
  if copied.isSome then copied
  else if text.all fun c => (letters.lookup c).isSome || c == 's' || c == 't' || c == 'X' then
    some (letters.foldl (fun n (c, place) => if text.contains c then n + place else n) 0)
  else none

def isSign (c : Char) : Bool := c == '+' || c == '-' || c == '='

def changed? (who : List Char) : (fuel : Nat) → List (Char × Nat) → List Char → Option (List (Char × Nat))
  | 0, _, _ => none
  | _, left, [] => some left
  | fuel + 1, left, sign :: rest =>
      let text := rest.takeWhile fun c => !isSign c
      if !isSign sign then none
      else (permissions? left text).bind fun permissions =>
        let next := left.map fun (name, n) =>
          if who.isEmpty || who.contains name || who.contains 'a' then (name, applied sign permissions n)
          else (name, n)
        changed? who fuel next (rest.drop text.length)

/-- Reads parts of a description: for whom, and signs with permissions. Only the last part may have no
sign. -/
def parts? (left : List (Char × Nat)) : List (List Char) → Option (List (Char × Nat))
  | [] | [[]] => some left
  | part :: rest =>
      let who := part.takeWhile fun c => c == 'u' || c == 'g' || c == 'o' || c == 'a'
      let body := part.drop who.length
      if body.isEmpty && !rest.isEmpty then none
      else (changed? who (body.length + 1) left body).bind fun left => parts? left rest

def described? (mask : Nat) (text : String) : Option Nat :=
  let left := (classes mask).map fun (name, masked) => (name, 7 - masked)
  (parts? left ((text.splitOn ",").map String.toList)).map fun left =>
    left.foldl (fun n (_, permissions) => n * 8 + (7 - permissions)) 0

end Mask

def setMask (arguments : List String) : Running Nat := do
  let given ← optionsOf (plainLetters "S") arguments
  let p ← get
  match given.operands with
  | [] =>
      emit ((if given.has 'S' then Mask.symbolic p.mask else Mask.octal p.mask) ++ "\n")
      return 0
  | text :: _ =>
      if (text.toList.head?.map Char.isDigit).getD false then
        match text.toList.mapM (digitIn? 8) with
        | some digits => set { p with mask := valueIn 8 digits % 512 }
        | none => fail ("Illegal number: " ++ text)
      else if text.isEmpty then pure ()
      else match Mask.described? p.mask text with
        | some mask => set { p with mask := mask }
        | none => fail ("Illegal mode: " ++ text)
      return 0

/-- The command `ulimit`: nothing that is modelled is limited. -/
def showLimits (arguments : List String) : Running Nat := do
  let given ← optionsOf (plainLetters "HSatfdscmlpnvwr") arguments
  match given.operands with
  | [] =>
      emit "unlimited\n"
      return 0
  | [text] =>
      if text = "unlimited" || text.all Char.isDigit then return 0 else fail "bad number"
  | _ => fail "too many arguments"

/-- The command `times`: the shell and its programs take no time of their own. -/
def showTimes (_ : List String) : Running Nat := do
  emit "0m0.000000s 0m0.000000s\n0m0.000000s 0m0.000000s\n"
  return 0

end Signpost.Program.Shell
