import Signpost.Program.Shell.Field
import Signpost.Program.Shell.Pattern
import Signpost.Program.Shell.Process

/-! Expanding words.

Parameters, the output of scripts and arithmetic are put in their places; then a word is cut into
fields and each field that is a pattern into the names of files. -/

namespace Signpost.Program.Shell

abbrev Output := Command → Running String

structure Mode where
  /-- Whether the word is cut into fields. -/
  full : Bool := false
  /-- Whether all of the word is quoted. -/
  quoted : Bool := false
  /-- Whether the word is part of a parameter. -/
  inside : Bool := false
  /-- Whether home directories are looked for behind an equals sign and colons. -/
  assignment : Bool := false

structure Scan where
  /-- Whether a home directory may come next. -/
  home : Bool
  /-- Whether an equals sign has been seen. -/
  equals : Bool := false
  /-- Whether a quotation is open. -/
  quoting : Bool := false

def optionOrder : List Char := "pubaCEVvxsnmiIfe".toList

def parameterMarks (p : Process) (full quoted borders : Bool) : List Mark :=
  let between : List Mark :=
    if borders then [.border]
    else match p.bindings.value? "IFS" with
      | none => [.char ' ' quoted]
      | some separators =>
          if full && !quoted then [.border]
          else match separators.toList with
            | c :: _ => [.char c quoted]
            | [] => []
  ((p.parameters.map fun text => marksOf text.toList quoted).intersperse between).flatten

def markedValue? (p : Process) (full quoted : Bool) (name : String) : Option (List Mark) :=
  let marked (text : String) : Option (List Mark) := some (marksOf text.toList quoted)
  match name with
  | "$" => marked (toString p.number)
  | "?" => marked (toString p.status)
  | "#" => marked (toString p.parameters.length)
  | "!" => p.lastJob.bind fun number => marked (toString number)
  | "-" => marked (String.ofList (optionOrder.filter p.has))
  | "@" => some (parameterMarks p full quoted (full && quoted))
  | "*" => some (parameterMarks p full quoted false)
  | name =>
      match name.toNat? with
      | some 0 => marked p.name
      | some n => (p.parameters[n - 1]?).bind marked
      | none => (p.bindings.value? name).bind marked

def homeOf? (p : Process) (user : String) : Option String :=
  if user = "" then p.bindings.value? "HOME" else if user = "root" then some "/root" else none

def userAt? (assignment : Bool) : Word → Option (List Char × Word)
  | [] => some ([], [])
  | .char c :: rest =>
      if c = '/' || (assignment && c = ':') then some ([], .char c :: rest)
      else (userAt? assignment rest).map fun (user, rest) => (c :: user, rest)
  | _ => none

def openChars (word : Word) : List Char :=
  (word.takeWhile fun piece => piece.char?.isSome).filterMap Piece.char?

def withoutEnd (text : String) : List Char :=
  ((text.toList.filter (· != '\x00')).reverse.dropWhile (· == '\n')).reverse

def untilBorder (text : List Char) : List Char := text.takeWhile (· != '\x00')

def trimMarks (longest fromStart : Bool) (pattern : List Char) (marks : List Mark) : List Mark :=
  let counts := List.range (marks.length + 1)
  let order := if longest == fromStart then counts.reverse else counts
  let part (n : Nat) : List Char :=
    untilBorder (charsOf (if fromStart then marks.take n else marks.drop n))
  match order.find? fun n => Pattern.covers pattern (part n) with
  | some n => if fromStart then marks.drop n else marks.take n
  | none => marks

mutual

def expandPieces (output : Output) : (fuel : Nat) → Mode → Scan → (done : List Segment) → Word →
    Running (List Segment)
  | 0, _, _, done, _ => return done.reverse
  | _, _, _, done, [] => return done.reverse
  | fuel + 1, mode, scan, done, .char c :: rest => do
      let breaks := mode.inside && !mode.quoted && !scan.quoting
      let equals := scan.equals || (mode.assignment && c = '=')
      let next : Scan :=
        { scan with
          equals := equals
          home := mode.assignment && ((c = '=' && !scan.equals) || (c = ':' && equals)) }
      let literal : Running (List Segment) :=
        if breaks && !mode.assignment then
          let run := c :: openChars rest
          expandPieces output fuel mode next
            (⟨marksOf run false, .atSeparators⟩ :: done) (rest.drop (run.length - 1))
        else
          expandPieces output fuel mode next
            (⟨[.char c false], if breaks then .atSeparators else .never⟩ :: done) rest
      if scan.home && c = '~' then
        match userAt? mode.assignment rest with
        | some (user, after) =>
            match homeOf? (← get) (String.ofList user) with
            | some home =>
                expandPieces output fuel mode { scan with home := false }
                  (⟨marksOf home.toList true, .never⟩ :: done) after
            | none => literal
        | none => literal
      else literal
  | fuel + 1, mode, scan, done, .plain c :: rest =>
      expandPieces output fuel mode { scan with home := false }
        (⟨[.char c true], .never⟩ :: done) rest
  | fuel + 1, mode, scan, done, .quote :: rest => do
      match scan.quoting, rest with
      | false, .parameter "@" .value false _ :: .quote :: rest =>
          let segments ← expandParameter output fuel { mode with quoted := true } "@" .value false []
          expandPieces output fuel mode { scan with home := false } (segments.reverse ++ done) rest
      | quoting, rest =>
          expandPieces output fuel mode { scan with home := false, quoting := !quoting }
            (⟨[.quote], .never⟩ :: done) rest
  | fuel + 1, mode, scan, done, .parameter name form orEmpty word :: rest => do
      let segments ← expandParameter output fuel { mode with quoted := mode.quoted || scan.quoting }
        name form orEmpty word
      expandPieces output fuel mode { scan with home := false } (segments.reverse ++ done) rest
  | fuel + 1, mode, scan, done, .output script :: rest => do
      let quoted := mode.quoted || scan.quoting
      let text ← match script with
        | some script => output script
        | none => pure ""
      let segment : Segment :=
        ⟨marksOf (withoutEnd text) quoted, if quoted then .never else .atSeparators⟩
      expandPieces output fuel mode { scan with home := false } (segment :: done) rest
  | fuel + 1, mode, scan, done, .arithmetic expression :: rest => do
      let quoted := mode.quoted || scan.quoting
      let text := textOf (← expandPieces output fuel {} { home := false } [] expression)
      let p ← get
      let (result, bindings) := calculate p.bindings text
      set { p with bindings := bindings }
      let n ← match result with
        | .ok n => pure n
        | .error (.complaint text) => fail text
        | .error .trap => throw (.killed 8)
      let segment : Segment :=
        ⟨marksOf (toString n).toList quoted, if quoted then .never else .atSeparators⟩
      expandPieces output fuel mode { scan with home := false } (segment :: done) rest

def expandParameter (output : Output) : (fuel : Nat) → Mode → (name : String) → Form →
    (orEmpty : Bool) → Word → Running (List Segment)
  | 0, _, _, _, _, _ => return []
  | fuel + 1, mode, name, form, orEmpty, word => do
      if form == .unknown then fail "Bad substitution"
      let p ← get
      let value := (markedValue? p mode.full mode.quoted name).filter fun marks =>
        !(orEmpty && marks.isEmpty)
      let cutting : Cutting :=
        if !mode.quoted then .atSeparators
        else if name = "@" && !p.parameters.isEmpty then .atBorders
        else .never
      let segment (marks : List Mark) : List Segment := [⟨marks, cutting⟩]
      let unset : Running Unit := do
        if p.has 'u' then fail (name ++ ": parameter not set")
      let inner (mode : Mode) : Running (List Segment) :=
        expandPieces output fuel mode { home := true } [] word
      match form, value with
      | .otherwise, some marks | .assigned, some marks | .required, some marks => return segment marks
      | .otherwise, none | .instead, some _ => inner { mode with inside := true }
      | .instead, none => return []
      | .required, none =>
          if word.isEmpty then
            fail (name ++ ": parameter not set" ++ if orEmpty then " or null" else "")
          else fail (name ++ ": " ++ textOf (← inner {}))
      | .assigned, none =>
          assign name (textOf (← inner {}))
          return segment ((markedValue? (← get) mode.full mode.quoted name).getD [])
      | .length, none =>
          unset
          return [⟨marksOf ['0'] mode.quoted, if mode.quoted then .never else .atSeparators⟩]
      | .length, some marks =>
          return [⟨marksOf (toString marks.length).toList mode.quoted,
            if mode.quoted then .never else .atSeparators⟩]
      | .trimmedStart longest, some marks =>
          let pattern := (← inner {}).flatMap fun segment => patternOf segment.marks
          return segment (trimMarks longest true pattern marks)
      | .trimmedEnd longest, some marks =>
          let pattern := (← inner {}).flatMap fun segment => patternOf segment.marks
          return segment (trimMarks longest false pattern marks)
      | _, some marks => return segment marks
      | _, none =>
          unset
          return []

end

def wordDepth : Nat := Nat.pow 2 30

def expandText (output : Output) (mode : Mode) (word : Word) : Running String :=
  return textOf (← expandPieces output wordDepth mode { home := !mode.quoted } [] word)

def expandAssignment (output : Output) (word : Word) : Running String :=
  expandText output { assignment := true } word

def expandPattern (output : Output) (word : Word) : Running (List Char) := do
  let segments ← expandPieces output wordDepth {} { home := true } [] word
  return segments.flatMap fun segment => patternOf segment.marks

def expandFields (output : Output) (word : Word) : Running (List String) := do
  let segments ← expandPieces output wordDepth { full := true } { home := true } [] word
  let p ← get
  let fields := fieldsOf p.separators segments
  return fields.flatMap fun field =>
    let plain := String.ofList (charsOf field)
    if p.has 'f' then [plain]
    else match filesMatching p.state (patternOf field) with
      | [] => [plain]
      | names => names

/-! Redirections.

All words are expanded before the first file is opened. What a redirection has changed is put back
behind the command, whether or not all of them have succeeded. -/

inductive Prepared where
  | file (descriptor : Nat) (opening : Opening) (path : String)
  /-- Makes a descriptor lead where another one leads, or nowhere. -/
  | duplicate (descriptor : Nat) (source : Option Nat)
  | document (descriptor : Nat) (number : Nat)
deriving DecidableEq, Repr, Inhabited

namespace Prepared

def descriptor : Prepared → Nat
  | .file descriptor _ _ | .duplicate descriptor _ | .document descriptor _ => descriptor

end Prepared

def prepare (output : Output) : Redirection → Running Prepared
  | .file descriptor opening path => return .file descriptor opening (← expandText output {} path)
  | .document descriptor number => return .document descriptor number
  | .duplicate descriptor target => do
      match (← expandText output {} target).toList with
      | ['-'] => return .duplicate descriptor none
      | [c] =>
          if c.isDigit then return .duplicate descriptor (some (c.toNat - '0'.toNat)) else wrongNumber
      | _ => wrongNumber
where
  wrongNumber : Running Prepared := do
    modify fun p => { p with line := p.readLine }
    fail "Syntax error: Bad fd number"

def openingMessage (writes : Bool) : SystemError → String
  | .notFound | .notDirectory => if writes then "Directory nonexistent" else "No such file"
  | error => error.message

/-- How a file is opened. Where files are protected, output goes only into new ones and devices. -/
def accessFor (p : Process) (path : String) : Opening → Access
  | .input => .read
  | .overwriting => .write
  | .append => .append
  | .both => .both
  | .output =>
      if p.has 'C' then
        match p.state.find path with
        | .ok (.device _) => .write
        | _ => .fresh
      else .write

def openFor (descriptor : Nat) (opening : Opening) (path : String) : Running Unit := do
  let p ← get
  let access := accessFor p path opening
  match p.state.openPath path access with
  | .ok (channel, s) => set { p with state := s.setChannel descriptor (some channel) }
  | .error error =>
      let verb := if access.writes then "create" else "open"
      fail ("cannot " ++ verb ++ " " ++ path ++ ": " ++ openingMessage access.writes error)

def redirectOne (output : Output) : Prepared → Running Unit
  | .file descriptor opening path => openFor descriptor opening path
  | .duplicate descriptor none =>
      modify fun p => { p with state := p.state.setChannel descriptor none }
  | .duplicate descriptor (some source) => do
      let p ← get
      match p.state.channel? source with
      | some channel => set { p with state := p.state.setChannel descriptor (some channel) }
      | none => fail (toString source ++ ": " ++ SystemError.badDescriptor.message)
  | .document descriptor number => do
      let p ← get
      let text ← match p.documents.lookup number with
        | none => pure ""
        | some document =>
            if document.expands then expandText output { quoted := true } document.body
            else pure (String.ofList (document.body.filterMap fun
              | .char c | .plain c => some c
              | _ => none))
      let p ← get
      let content : Pipe := { ready := [(p.state.time, Text.bytesOf text)] }
      let (id, world) := p.state.world.newPipe (if text.isEmpty then {} else content)
      let s : State := { p.state with world := world }
      set { p with state := s.setChannel descriptor (some (.source id)) }

abbrev Replaced := List (Nat × Option Channel)

def replacedBy (p : Process) (redirections : List Prepared) : Replaced :=
  redirections.map fun redirection =>
    (redirection.descriptor, p.state.channel? redirection.descriptor)

def putBack (replaced : Replaced) : Running Unit :=
  modify fun p =>
    let state := replaced.foldl (fun s (descriptor, channel) => s.setChannel descriptor channel) p.state
    { p with state := state }

/-- Makes redirections, and tells whether they have succeeded. What is wrong has been said. -/
def redirectAll (output : Output) (redirections : List Prepared) : Running Bool := do
  match ← caught (redirections.forM (redirectOne output)) with
  | .ok () => return true
  | .error .failed => return false
  | .error halt => throw halt

end Signpost.Program.Shell
