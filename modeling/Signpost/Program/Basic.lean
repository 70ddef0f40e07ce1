import Signpost.Program.Printf

/-! Options of programs: letters behind one hyphen and words behind two.

Options may stand anywhere among the arguments, up to two hyphens alone. A word may be cut short as
long as it is clear which one is meant. -/

namespace Signpost.Program

structure OptionSet where
  letters : List Char
  words : List (String × Char)
deriving Repr, Inhabited

structure Arguments where
  options : List Char := []
  operands : List String := []
deriving DecidableEq, Repr, Inhabited

namespace OptionSet

def word (known : OptionSet) (text : String) : Except String Char :=
  let name := String.ofList (text.toList.takeWhile (· != '='))
  let option := "option '--" ++ name ++ "'"
  let found (letter : Char) : Except String Char :=
    if name.length < text.length then .error (option ++ " doesn't allow an argument") else .ok letter
  match known.words.lookup name with
  | some letter => found letter
  | none =>
      match known.words.filter fun (full, _) => full.startsWith name with
      | [] => .error ("unrecognized option '--" ++ text ++ "'")
      | [(full, letter)] =>
          if name.length < text.length then
            .error ("option '--" ++ full ++ "' doesn't allow an argument")
          else .ok letter
      | several =>
          .error ("option '--" ++ text ++ "' is ambiguous; possibilities:" ++
            String.join (several.map fun (full, _) => " '--" ++ full ++ "'"))

def unknown? (known : OptionSet) (letters : List Char) : Option Char :=
  letters.find? fun letter => !known.letters.contains letter

def read (known : OptionSet) : List String → Except String Arguments
  | [] => .ok {}
  | argument :: rest =>
      match argument.toList with
      | ['-', '-'] => .ok { operands := rest }
      | '-' :: '-' :: name => do
          let letter ← known.word (String.ofList name)
          let others ← known.read rest
          return { others with options := letter :: others.options }
      | '-' :: c :: letters =>
          match known.unknown? (c :: letters) with
          | some letter => .error ("invalid option -- '" ++ String.singleton letter ++ "'")
          | none => do
              let others ← known.read rest
              return { others with options := c :: letters ++ others.options }
      | _ => do
          let others ← known.read rest
          return { others with operands := argument :: others.operands }

end OptionSet

def misused (name complaint : String) (s : State) : Exit × State :=
  (.code 1, (s.complain (name ++ ": " ++ complaint ++ "\n")).complain (tryHelp name))

/-! The program `echo`: prints its arguments with blanks between them. -/

namespace Echo

structure Style where
  /-- Leaves out the line break at the end. -/
  quiet : Bool := false
  /-- Lets backslashes escape. -/
  escapes : Bool := false
deriving DecidableEq, Repr, Inhabited

def Style.with (style : Style) (letter : Char) : Style :=
  match letter with
  | 'n' => { style with quiet := true }
  | 'e' => { style with escapes := true }
  | _ => { style with escapes := false }

def letters? (argument : String) : Option (List Char) :=
  match argument.toList with
  | '-' :: c :: rest =>
      if (c :: rest).all fun c => c == 'n' || c == 'e' || c == 'E' then some (c :: rest) else none
  | _ => none

def options (style : Style) : List String → Style × List String
  | [] => (style, [])
  | argument :: rest =>
      match letters? argument with
      | some letters => options (letters.foldl Style.with style) rest
      | none => (style, argument :: rest)

/-- What an escape after its backslash stands for, and what follows it; nothing if it ends all
output. -/
def escape? : List Char → Option (List Char × List Char)
  | [] => some (['\\'], [])
  | 'c' :: _ => none
  | '"' :: rest => some (['\\', '"'], rest)
  | 'x' :: rest =>
      let digits := (rest.take 2).takeWhile Printf.isHexadecimal
      if digits.isEmpty then some (['\\', 'x'], rest)
      else some ([Printf.byteChar (Printf.hexadecimal digits)], rest.drop digits.length)
  | c :: rest =>
      if Printf.isOctal c then
        let body := if c = '0' then rest else c :: rest
        let digits := (body.take 3).takeWhile Printf.isOctal
        some ([Printf.byteChar (valueIn 8 (digits.filterMap (digitIn? 8)))], body.drop digits.length)
      else match Printf.plainEscape? c with
        | some plain => some ([plain], rest)
        | none => some (['\\', c], rest)

def unescaped : (fuel : Nat) → (done : List Char) → List Char → List Char × Bool
  | 0, done, _ => (done, false)
  | _, done, [] => (done, false)
  | fuel + 1, done, '\\' :: rest =>
      match escape? rest with
      | some (text, rest) => unescaped fuel (text.reverse ++ done) rest
      | none => (done, true)
  | fuel + 1, done, c :: rest => unescaped fuel (c :: done) rest

def output (arguments : List String) : String :=
  let (style, words) := options {} arguments
  let line := Text.join " " words
  let (text, cut) :=
    if style.escapes then unescaped (line.length + 1) [] line.toList else (line.toList.reverse, false)
  String.ofList (if cut || style.quiet then text else '\n' :: text).reverse

end Echo

def echo : Action := fun name arguments s => finish name (Echo.output arguments) 0 s

/-! The program `cat`: copies files one after another, with marks and numbers if asked for.

Numbers and empty lines are counted across files, so what is known of the lines so far is handed from
one file to the next. -/

namespace Cat

structure Style where
  /-- Numbers all lines. -/
  numbers : Bool := false
  /-- Leaves out the numbers of empty lines. -/
  onlyFilled : Bool := false
  /-- Keeps only one of several empty lines. -/
  squeezes : Bool := false
  hidden : Bool := false
  ends : Bool := false
  tabs : Bool := false
deriving DecidableEq, Repr, Inhabited

def Style.with (style : Style) (letter : Char) : Style :=
  match letter with
  | 'b' => { style with numbers := true, onlyFilled := true }
  | 'e' => { style with hidden := true, ends := true }
  | 'n' => { style with numbers := true }
  | 's' => { style with squeezes := true }
  | 't' => { style with hidden := true, tabs := true }
  | 'v' => { style with hidden := true }
  | 'A' => { style with hidden := true, ends := true, tabs := true }
  | 'E' => { style with ends := true }
  | 'T' => { style with tabs := true }
  | _ => style

def Style.isPlain (style : Style) : Bool := style == { onlyFilled := style.onlyFilled }

/-- Lines so far: the number of the last one, how many line breaks have come in a row after a line,
none within a line, and whether a carriage return is held back. -/
structure Lines where
  number : Nat := 0
  breaks : Option Nat := some 0
  returned : Bool := false
deriving DecidableEq, Repr, Inhabited

def label (n : Nat) : List Char :=
  let digits := Nat.toDigits 10 n
  List.replicate (6 - digits.length) ' ' ++ digits ++ ['\t']

def shown (style : Style) (c : Char) : List Char :=
  let n := c.toNat
  if c = '\t' then if style.tabs then ['^', 'I'] else [c]
  else if !style.hidden then [c]
  else
    let mark := if 128 ≤ n then ['M', '-'] else []
    let low := n % 128
    if low < 32 then mark ++ ['^', Char.ofNat (low + 64)]
    else if low = 127 then mark ++ ['^', '?']
    else mark ++ [Char.ofNat low]

def step (style : Style) (lines : Lines) (done : List Char) (c : Char) : Lines × List Char :=
  if c = '\n' then
    let breaks := (lines.breaks.map (· + 1)).getD 0
    if style.squeezes && 2 ≤ breaks then ({ lines with breaks := some 2 }, done)
    else
      let numbered := 0 < breaks && style.numbers && !style.onlyFilled
      let number := if numbered then lines.number + 1 else lines.number
      let mark :=
        (if numbered then label number else []) ++
          (if lines.returned then ['^', 'M'] else []) ++ (if style.ends then ['$'] else []) ++ ['\n']
      (⟨number, some breaks, false⟩, mark.reverse ++ done)
  else
    let done := if lines.returned then '\r' :: done else done
    let numbered := lines.breaks.isSome && style.numbers
    let number := if numbered then lines.number + 1 else lines.number
    let done := if numbered then (label number).reverse ++ done else done
    if c = '\r' && style.ends && !style.hidden then (⟨number, none, true⟩, done)
    else (⟨number, none, false⟩, (shown style c).reverse ++ done)

def copied (style : Style) (lines : Lines) (raw : String) : Lines × String :=
  let (lines, done) := raw.toList.foldl (fun (lines, done) c => step style lines done c) (lines, [])
  (lines, String.ofList done.reverse)

structure Progress where
  state : State
  lines : Lines := {}
  failed : Bool := false
  /-- Whether the input was read. -/
  input : Bool := false
  /-- Set when the output cannot be written. -/
  broken : Bool := false

def Progress.complain (p : Progress) (name text : String) : Progress :=
  { p with state := p.state.complain (name ++ ": " ++ text ++ "\n"), failed := true }

def drain (style : Style) (name operand : String) (descriptor : Nat) : (fuel : Nat) → Progress → Progress
  | 0, p => p
  | fuel + 1, p =>
      match p.state.readSome descriptor with
      | .error e => p.complain name (fileName operand ++ ": " ++ e.message)
      | .ok (none, s) => { p with state := s }
      | .ok (some bytes, s) =>
          let (lines, text) :=
            if style.isPlain then (p.lines, Text.rawOf bytes)
            else copied style p.lines (Text.rawOf bytes)
          match s.write 1 text with
          | (none, s) => drain style name operand descriptor fuel { p with state := s, lines := lines }
          | (some e, s) =>
              { { p with state := s }.complain name ("write error: " ++ e.message) with broken := true }

def mostPieces : Nat := Nat.pow 2 40

def feedsItself (s : State) (descriptor : Nat) : Bool :=
  match s.channel? descriptor, s.channel? 1 with
  | some (.file source), some (.file target) =>
      match s.world.files.lookup source, s.world.files.lookup target with
      | some source, some target =>
          source.place == target.place && source.offset < (s.world.contentAt source.place).length
      | _, _ => false
  | _, _ => false

def fileDescriptor : Nat := 3

def one (style : Style) (name : String) (p : Progress) (operand : String) : Progress :=
  if p.broken then p
  else
    let copy (descriptor : Nat) (p : Progress) : Progress :=
      if feedsItself p.state descriptor then
        p.complain name (fileName operand ++ ": input file is output file")
      else drain style name operand descriptor mostPieces p
    if operand = "-" then copy 0 { p with input := true }
    else match p.state.openPath operand .read with
      | .error e => p.complain name (fileName operand ++ ": " ++ e.message)
      | .ok (channel, s) =>
          let before := p.state.channel? fileDescriptor
          let p := copy fileDescriptor { p with state := s.setChannel fileDescriptor (some channel) }
          { p with state := p.state.setChannel fileDescriptor before }

def known : OptionSet where
  letters := "benstuvAET".toList
  words := [("number-nonblank", 'b'), ("number", 'n'), ("squeeze-blank", 's'),
    ("show-nonprinting", 'v'), ("show-ends", 'E'), ("show-tabs", 'T'), ("show-all", 'A'),
    ("help", 'h'), ("version", 'V')]

end Cat

def cat : Action := fun name arguments s =>
  match Cat.known.read arguments with
  | .error complaint => misused name complaint s
  | .ok ⟨options, operands⟩ =>
      let style := options.foldl Cat.Style.with {}
      if (s.channel? 1).isNone then
        (.code 1, s.complain (name ++ ": standard output: " ++ SystemError.badDescriptor.message ++ "\n"))
      else
        let p := (if operands.isEmpty then ["-"] else operands).foldl (Cat.one style name) { state := s }
        let s := if p.lines.returned && !p.broken then (p.state.write 1 "\r").2 else p.state
        if p.input && (s.channel? 0).isNone then
          (.code 1, s.complain (name ++ ": closing standard input: " ++
            SystemError.badDescriptor.message ++ "\n"))
        else (.code (if p.failed then 1 else 0), s)

/-! The program `sleep`: lets the sum of some intervals pass. -/

namespace Sleep

def unit? : List Char → Option Nat
  | [] | ['s'] => some 1
  | ['m'] => some 60
  | ['h'] => some 3600
  | ['d'] => some 86400
  | _ => none

def forever : Nat := Nat.pow 10 18

def milliseconds? (text : String) : Option Nat :=
  let numeral := readReal text.toList
  if !numeral.found then none
  else match numeral.value, unit? numeral.rest with
    | .finite negative top bottom, some unit =>
        if negative && top != 0 then none
        else some (min forever ((top * unit * 1000 + bottom - 1) / bottom))
    | .infinite false, some _ => some forever
    | _, _ => none

def known : OptionSet where
  letters := []
  words := [("help", 'h'), ("version", 'v')]

end Sleep

def sleep : Action := fun name arguments s =>
  if arguments.isEmpty then misused name "missing operand" s
  else match Sleep.known.read arguments with
  | .error complaint => misused name complaint s
  | .ok ⟨_, operands⟩ =>
      match operands.filter fun word => (Sleep.milliseconds? word).isNone with
      | [] =>
          let total := operands.foldl (fun total word =>
            total + (Sleep.milliseconds? word).getD 0) 0
          (.code 0, { s with time := s.time + total })
      | wrong =>
          let s := wrong.foldl (fun s word =>
            s.complain (name ++ ": invalid time interval " ++ quoted word ++ "\n")) s
          (.code 1, s.complain (tryHelp name))

/-! The programs besides the shell. -/

def action? (program : String) : Option Action :=
  match program with
  | "cat" => some cat
  | "echo" => some echo
  | "false" => some fun _ _ s => (.code 1, s)
  | "printf" => some printf
  | "sleep" => some sleep
  | "true" => some fun _ _ s => (.code 0, s)
  | _ => none

def programAt? (raw : String) (s : State) : Option String :=
  match s.find raw with
  | .ok .program => (Path.parts raw).getLast?
  | _ => none

end Signpost.Program
