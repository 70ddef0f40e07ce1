import Signpost.Program.Shell.Reader

/-! Reading commands of a script.

Words are reserved only where a command may begin, so each token is read with what is looked for in
that place. A script is read and run one complete command after another; an error is met only when all
before it has been run. -/

namespace Signpost.Program.Shell

structure Check where
  /-- Whether line breaks are left out. -/
  breaks : Bool := false
  keywords : Bool := false
  aliases : Bool := false

def Check.command : Check := ⟨true, true, true⟩

def keywords : List String :=
  ["!", "case", "do", "done", "elif", "else", "esac", "fi", "for", "if", "in", "then", "until",
    "while", "\x7b", "\x7d"]

def specialCommands : List String :=
  [".", ":", "break", "continue", "eval", "exec", "exit", "export", "local", "readonly", "return",
    "set", "shift", "times", "trap", "unset"]

namespace Token

def name : Token → String
  | endOfFile => "end of file"
  | newline => "newline"
  | operator text | keyword text => "\"" ++ text ++ "\""
  | redirection _ _ => "redirection"
  | word _ _ => "word"

def isOperator (text : String) : Token → Bool
  | operator other => other == text
  | _ => false

def isKeyword (text : String) : Token → Bool
  | keyword other => other == text
  | _ => false

def ends : Token → Bool
  | endOfFile => true
  | operator text => text == ")" || text == ";;"
  | keyword text =>
      text == "do" || text == "done" || text == "elif" || text == "else" || text == "esac" ||
        text == "fi" || text == "then" || text == "\x7d"
  | _ => false

end Token

def longestComplaint : Nat := 63

def unexpected {α : Type} (token : Token) (expected : Option Token) : Parsing α :=
  let text := token.name ++ " unexpected" ++
    ((expected.map fun token => " (expecting " ++ token.name ++ ")").getD "")
  wrong (text.take longestComplaint).toString

def give (token : Token) : Parsing Unit := modify fun r => { r with pushed := some token }

def readSign (c : Char) : Parsing Sign := do
  let next ← peek
  if c = '>' then
    match next with
    | some '>' => advance *> pure (.opening .append)
    | some '|' => advance *> pure (.opening .overwriting)
    | some '&' => advance *> pure .duplicating
    | _ => return .opening .output
  else
    match next with
    | some '<' =>
        advance
        if (← peek) = some '-' then
          advance
          return .document true
        else return .document false
    | some '&' => advance *> pure .duplicating
    | some '>' => advance *> pure (.opening .both)
    | _ => return .opening .input

def signDescriptor? (c : Char) (pieces : Word) (quoted : Bool) : Option Nat :=
  if quoted then none
  else match pieces with
    | [] => some (if c = '>' then 1 else 0)
    | [.char digit] => if digit.isDigit then some (digit.toNat - '0'.toNat) else none
    | _ => none

def readWordToken (nested : Nested) (isMarker : Bool) (fuel : Nat) : Parsing Token := do
  let (pieces, quoted) ← readPieces nested { isMarker := isMarker } fuel { style := .plain } [] false
  let word : Parsing Token := do
    modify fun r => { r with lastWord := pieces }
    return .word pieces quoted
  match ← peek with
  | some c =>
      if c = '>' || c = '<' then
        match signDescriptor? c pieces quoted with
        | some descriptor =>
            advance
            return .redirection descriptor (← readSign c)
        | none => word
      else word
  | none => word

def readOperator (c : Char) : Parsing Token := do
  advance
  if (← peek) = some c then
    advance
    return .operator (String.ofList [c, c])
  else return .operator (String.singleton c)

def readRaw (nested : Nested) (isMarker : Bool) : (fuel : Nat) → Parsing Token
  | 0 => return .endOfFile
  | fuel + 1 => do
      match ← peek with
      | none => return .endOfFile
      | some c =>
          if c = ' ' || c = '\t' then advance *> readRaw nested isMarker fuel
          else if c = '#' then
            modify fun r => { r with input := r.input.dropWhile (· != '\n') }
            readRaw nested isMarker fuel
          else if c = '\n' then advance *> pure .newline
          else if c = '&' || c = '|' || c = ';' then readOperator c
          else if c = '(' || c = ')' then advance *> pure (.operator (String.singleton c))
          else
            modify fun r =>
              if r.expanding.isEmpty then r else { r with tokenStart := r.input.length }
            readWordToken nested isMarker fuel

def readDocuments (nested : Nested) (fuel : Nat) : Parsing Unit := do
  let due := (← get).pending
  modify fun r => { r with pending := [] }
  for pending in due do
    let surroundings : Surroundings := { marker := some pending }
    let level : Level := { style := if pending.expands then .double else .single }
    let (body, _) ←
      if ← atMarker surroundings then endLevel surroundings level [] false
      else readPieces nested surroundings fuel level [] false
    modify fun r => { r with documents := (pending.number, ⟨body, pending.expands⟩) :: r.documents }

def leaveAliases : Parsing Unit :=
  modify fun r =>
    if r.expanding.isEmpty then r
    else
      let left := r.input.length
      let ended := r.expanding.filter fun (_, behind) => left ≤ behind
      let blank := ended.any fun (name, _) =>
        ((r.aliases.lookup name).bind fun text => text.toList.getLast?).any fun c => c == ' ' || c == '\t'
      { r with expanding := r.expanding.filter fun (_, behind) => behind < left, aliasNext := blank }

def readToken (nested : Nested) (check : Check) : (fuel : Nat) → Parsing Token
  | 0 => return .endOfFile
  | fuel + 1 => do
      let r ← get
      let token ← match r.pushed with
        | some token =>
            modify fun r => { r with pushed := none }
            pure token
        | none => readRaw nested false fuel
      match token with
      | .newline =>
          if check.breaks then
            readDocuments nested fuel
            readToken nested check fuel
          else return token
      | .word pieces false =>
          match plainText? pieces with
          | none => return token
          | some text =>
              if check.keywords && keywords.contains text then return .keyword text
              else
                let r ← get
                let inUse := r.expanding.any fun (name, behind) => name == text && behind < r.tokenStart
                let wanted := check.aliases || r.aliasNext
                leaveAliases
                match r.aliases.lookup text with
                | some value =>
                    if wanted && !inUse then
                      modify fun r =>
                        { r with
                          input := value.toList ++ r.input
                          expanding := (text, r.input.length) :: r.expanding
                          aliasNext := false }
                      readToken nested { check with breaks := false } fuel
                    else return token
                | none => return token
      | token => return token

def readTarget (nested : Nested) (fuel : Nat) (descriptor : Nat) (sign : Sign) :
    Parsing Redirection := do
  let token ← match sign with
    | .document _ => readRaw nested true fuel
    | _ => readToken nested {} fuel
  match token, sign with
  | .word pieces _, .opening opening => return .file descriptor opening pieces
  | .word pieces _, .duplicating => return .duplicate descriptor pieces
  | .word pieces quoted, .document trims =>
      let number := (← get).nextDocument
      modify fun r =>
        { r with
          nextDocument := number + 1
          pending := r.pending ++ [⟨number, markerText pieces, trims, !quoted⟩] }
      return .document descriptor number
  | token, _ => unexpected token none

def readRedirections (nested : Nested) (check : Check) : (fuel : Nat) → Parsing (List Redirection)
  | 0 => return []
  | fuel + 1 => do
      match ← readToken nested check fuel with
      | .redirection descriptor sign =>
          let redirection ← readTarget nested fuel descriptor sign
          return redirection :: (← readRedirections nested {} fuel)
      | token =>
          give token
          return []

def readWords (nested : Nested) : (fuel : Nat) → Parsing (List Word × Token)
  | 0 => return ([], .endOfFile)
  | fuel + 1 => do
      match ← readToken nested {} fuel with
      | .word pieces _ =>
          let (words, token) ← readWords nested fuel
          return (pieces :: words, token)
      | token => return ([], token)

structure Gathered where
  assignments : List Word := []
  words : List Word := []
  redirections : List Redirection := []

inductive Simple where
  | command (gathered : Gathered)
  /-- A definition of a function, whose body follows. -/
  | definition (name : String)

def readSimple (nested : Nested) : (fuel : Nat) → Gathered → Parsing Simple
  | 0, gathered => return .command gathered
  | fuel + 1, gathered => do
      let check : Check := { aliases := gathered.words.isEmpty }
      match ← readToken nested check fuel with
      | .word pieces _ =>
          if gathered.words.isEmpty && (assignedName? pieces).isSome then
            readSimple nested fuel { gathered with assignments := pieces :: gathered.assignments }
          else readSimple nested fuel { gathered with words := pieces :: gathered.words }
      | .redirection descriptor sign =>
          let redirection ← readTarget nested fuel descriptor sign
          readSimple nested fuel { gathered with redirections := redirection :: gathered.redirections }
      | .operator "(" =>
          match gathered with
          | { words := [name], assignments := [], redirections := [] } =>
              let token ← readToken nested {} fuel
              if !token.isOperator ")" then unexpected token (some (.operator ")"))
              else match plainText? name with
                | some text =>
                    if isName text && !specialCommands.contains text then return .definition text
                    else wrong "Bad function name"
                | none => wrong "Bad function name"
          | gathered =>
              give (.operator "(")
              return .command gathered
      | token =>
          give token
          return .command gathered

inductive Extent where
  /-- At the end of a line. -/
  | line
  /-- Within another command, which has at least one command inside. -/
  | inside
  /-- Within another command, perhaps at once. -/
  | maybe
deriving DecidableEq, Repr, Inhabited

def expect (nested : Nested) (check : Check) (fuel : Nat) (expected : Token) : Parsing Unit := do
  let token ← readToken nested check fuel
  let same := match expected with
    | .operator text => token.isOperator text
    | .keyword text => token.isKeyword text
    | .word _ _ => match token with
      | .word _ _ => true
      | _ => false
    | _ => false
  if !same then unexpected token (some expected)

def behind (first : Option Command) (second : Command) : Command :=
  match first with
  | some first => .sequence first second
  | none => second

def inBackground : Command → Command
  | .pipe stages _ => .pipe stages true
  | command => .background command

def redirectedBy (line : Nat) (command : Command) (redirections : List Redirection) : Command :=
  if redirections.isEmpty then command
  else match command with
    | .subshell line body _ => .subshell line body redirections
    | command => .redirected line command redirections

def allParameters : Word := [.quote, .parameter "@" .value false [], .quote]

mutual

def readList : (fuel : Nat) → Extent → (first : Option Command) → Parsing (Option Command)
  | 0, _, first => return first
  | fuel + 1, extent, first => do
      let nested := nestedIn fuel
      let check : Check := { Check.command with breaks := extent != .line }
      match ← readToken nested check fuel with
      | .newline =>
          readDocuments nested fuel
          return first
      | .endOfFile =>
          readDocuments nested fuel
          give .endOfFile
          return first
      | token =>
          give token
          if token.ends && (extent == .maybe || (extent == .inside && first.isSome)) then return first
          else
            let second ← readAndOr fuel
            match ← readToken nested {} fuel with
            | .operator "&" => readList fuel extent (some (behind first (inBackground second)))
            | .operator ";" => readList fuel extent (some (behind first second))
            | .newline =>
                give .newline
                readList fuel extent (some (behind first second))
            | .endOfFile =>
                readDocuments nested fuel
                give .endOfFile
                return some (behind first second)
            | token =>
                if extent == .line then unexpected token none
                else
                  give token
                  return some (behind first second)

def nestedIn : (fuel : Nat) → Nested
  | 0 => ⟨pure none, fun _ => pure none⟩
  | fuel + 1 => {
      script := do
        let pending := (← get).pending
        modify fun r => { r with pending := [] }
        let script ← readList fuel .maybe none
        let token ← readToken (nestedIn fuel) {} fuel
        if !token.isOperator ")" then unexpected token (some (.operator ")"))
        modify fun r => { r with pending := pending }
        return script
      text := fun text => do
        let r ← get
        set { r with input := text, line := 1, pending := [], expanding := [] }
        let script ← readList fuel .maybe none
        modify fun inner =>
          { r with documents := inner.documents, nextDocument := inner.nextDocument }
        return script }

def readAndOr : (fuel : Nat) → Parsing Command
  | 0 => return default
  | fuel + 1 => do
      let first ← readPipeline fuel {}
      readAndOrRest fuel first

def readAndOrRest : (fuel : Nat) → (first : Command) → Parsing Command
  | 0, first => return first
  | fuel + 1, first => do
      match ← readToken (nestedIn fuel) {} fuel with
      | .operator "&&" =>
          let second ← readPipeline fuel .command
          readAndOrRest fuel (.both first second)
      | .operator "||" =>
          let second ← readPipeline fuel .command
          readAndOrRest fuel (.either first second)
      | token =>
          give token
          return first

def readPipeline : (fuel : Nat) → Check → Parsing Command
  | 0, _ => return default
  | fuel + 1, check => do
      match ← readToken (nestedIn fuel) check fuel with
      | .keyword "!" =>
          let first ← readCommand fuel { keywords := true, aliases := true }
          return .negated (← readPipelineRest fuel [first])
      | token =>
          give token
          let first ← readCommand fuel {}
          readPipelineRest fuel [first]

def readPipelineRest : (fuel : Nat) → (stages : List Command) → Parsing Command
  | 0, stages => return stages.headD default
  | fuel + 1, stages => do
      match ← readToken (nestedIn fuel) {} fuel with
      | .operator "|" =>
          let stage ← readCommand fuel .command
          readPipelineRest fuel (stage :: stages)
      | token =>
          give token
          match stages with
          | [stage] => return stage
          | stages => return .pipe stages.reverse false

def readInside : (fuel : Nat) → Parsing Command
  | 0 => return default
  | fuel + 1 => do
      match ← readList fuel .inside none with
      | some command => return command
      | none => return default

def readChoice : (fuel : Nat) → Parsing Command
  | 0 => return default
  | fuel + 1 => do
      let nested := nestedIn fuel
      let condition ← readInside fuel
      expect nested {} fuel (.keyword "then")
      let thenPart ← readInside fuel
      match ← readToken nested {} fuel with
      | .keyword "elif" => return .choice condition thenPart (some (← readChoice fuel))
      | .keyword "else" => return .choice condition thenPart (some (← readInside fuel))
      | token =>
          give token
          return .choice condition thenPart none

def readCases : (fuel : Nat) → Parsing (List (List Word × Option Command))
  | 0 => return []
  | fuel + 1 => do
      let nested := nestedIn fuel
      let token ← readToken nested { breaks := true, keywords := true } fuel
      if token.isKeyword "esac" then return []
      else
        if token.isOperator "(" then let _ ← readToken nested {} fuel
        let patterns ← readPatterns fuel
        let body ← readList fuel .maybe none
        match ← readToken nested { breaks := true, keywords := true } fuel with
        | .keyword "esac" => return [(patterns, body)]
        | .operator ";;" => return (patterns, body) :: (← readCases fuel)
        | token => unexpected token (some (.operator ";;"))

def readPatterns : (fuel : Nat) → Parsing (List Word)
  | 0 => return []
  | fuel + 1 => do
      let nested := nestedIn fuel
      let pattern := (← get).lastWord
      match ← readToken nested {} fuel with
      | .operator "|" =>
          let _ ← readToken nested {} fuel
          return pattern :: (← readPatterns fuel)
      | .operator ")" => return [pattern]
      | token => unexpected token (some (.operator ")"))

def readCommand : (fuel : Nat) → Check → Parsing Command
  | 0, _ => return default
  | fuel + 1, check => do
      let nested := nestedIn fuel
      let line := (← get).line
      let redirected (command : Command) : Parsing Command := do
        let redirections ← readRedirections nested { keywords := true, aliases := true } fuel
        return redirectedBy line command redirections
      let closed (command : Command) (last : Token) : Parsing Command := do
        expect nested {} fuel last
        redirected command
      let repeated (holds : Bool) : Parsing Command := do
        let condition ← readInside fuel
        expect nested {} fuel (.keyword "do")
        let body ← readInside fuel
        closed (.loop holds condition body) (.keyword "done")
      let simple : Parsing Command := do
        let line := (← get).line
        match ← readSimple nested fuel {} with
        | .command gathered =>
            return .simple line gathered.assignments.reverse gathered.words.reverse
              gathered.redirections.reverse
        | .definition name => return .define name (← readCommand fuel .command)
      let token ← readToken nested check fuel
      match token with
      | .keyword "if" =>
          let choice ← readChoice fuel
          closed choice (.keyword "fi")
      | .keyword "while" => repeated true
      | .keyword "until" => repeated false
      | .keyword "for" =>
          let name ← match ← readToken nested {} fuel with
            | .word pieces false =>
                match plainText? pieces with
                | some text => if isName text then pure text else wrong "Bad for loop variable"
                | none => wrong "Bad for loop variable"
            | _ => wrong "Bad for loop variable"
          let words ← match ← readToken nested .command fuel with
            | .keyword "in" => do
                match ← readWords nested fuel with
                | (words, .newline) | (words, .operator ";") => pure words
                | (_, token) => unexpected token none
            | .operator ";" => pure [allParameters]
            | token => do
                give token
                pure [allParameters]
          expect nested .command fuel (.keyword "do")
          let body ← readInside fuel
          closed (.each line name words body) (.keyword "done")
      | .keyword "case" =>
          let word ← match ← readToken nested {} fuel with
            | .word pieces _ => pure pieces
            | token => unexpected token (some (.word [] false))
          expect nested .command fuel (.keyword "in")
          let cases ← readCases fuel
          redirected (.select line word cases)
      | .operator "(" =>
          let body ← readInside fuel
          closed (.subshell line body []) (.operator ")")
      | .keyword "\x7b" =>
          let body ← readInside fuel
          closed body (.keyword "\x7d")
      | .word _ _ | .redirection _ _ =>
          give token
          simple
      | token => unexpected token none

end

def readingDepth (input : List Char) : Nat := 16 * input.length + 1024

inductive NextCommand where
  | endOfScript
  | nothing (reader : Reader)
  | command (command : Command) (reader : Reader)

def readCommandLine (reader : Reader) : Except SyntaxFault NextCommand :=
  let started : Reader := { reader with pushed := none, pending := [] }
  match (readList (readingDepth reader.input) .line none).run started with
  | .error fault => .error fault
  | .ok (some command, reader) => .ok (.command command reader)
  | .ok (none, reader) =>
      match reader.pushed with
      | some .endOfFile => .ok .endOfScript
      | _ => .ok (.nothing reader)

end Signpost.Program.Shell
