import Signpost.Program.Shell.Script
import Signpost.Text.Basic

/-! Reading words of a script.

A word is read character by character; quotes, braces and parentheses open levels in which characters
have other meanings. Line breaks behind a backslash are left out before anything else, except between
single quotes. -/

namespace Signpost.Program.Shell

structure SyntaxFault where
  line : Nat
  message : String
deriving DecidableEq, Repr, Inhabited

inductive Sign where
  | opening (opening : Opening)
  | duplicating
  /-- A text that follows in the script; tabs in front of its lines are left out if `trims`. -/
  | document (trims : Bool)
deriving DecidableEq, Repr, Inhabited

inductive Token where
  | endOfFile
  | newline
  | operator (text : String)
  | redirection (descriptor : Nat) (sign : Sign)
  | word (pieces : Word) (quoted : Bool)
  | keyword (name : String)
deriving Inhabited

structure Pending where
  number : Nat
  marker : List Char
  trims : Bool
  expands : Bool
deriving DecidableEq, Repr, Inhabited

structure Reader where
  input : List Char
  line : Nat := 1
  /-- A token that was read and given back. -/
  pushed : Option Token := none
  /-- The word that was read last. -/
  lastWord : Word := []
  aliases : List (String × String) := []
  /-- Aliases that are being read, with how much of the input is behind them. -/
  expanding : List (String × Nat) := []
  /-- How much of the input was left where the last token begins, while aliases are read. -/
  tokenStart : Nat := 0
  /-- Whether an alias that ends in a blank has just been read. -/
  aliasNext : Bool := false
  pending : List Pending := []
  documents : List (Nat × Document) := []
  nextDocument : Nat := 0
deriving Inhabited

abbrev Parsing := StateT Reader (Except SyntaxFault)

def wrong {α : Type} (message : String) : Parsing α := do
  throw ⟨(← get).line, "Syntax error: " ++ message⟩

def joinedFrom (line : Nat) : List Char → Nat × List Char
  | '\\' :: '\n' :: rest => joinedFrom (line + 1) rest
  | input => (line, input)

def Reader.joined (r : Reader) : Reader :=
  match r.input with
  | '\\' :: '\n' :: _ =>
      let (line, input) := joinedFrom r.line r.input
      { r with line := line, input := input }
  | _ => r

def peek : Parsing (Option Char) := do
  modify Reader.joined
  return (← get).input.head?

def advance : Parsing Unit :=
  modify fun r => { r with input := r.input.tail, line := if r.input.head? = some '\n' then r.line + 1 else r.line }

/-- Reads one character of the sign of a parameter; there a line break counts as any other. -/
def skip : Parsing Unit := modify fun r => { r with input := r.input.tail }

def takeChars (kind : Char → Bool) : (fuel : Nat) → (done : List Char) → Parsing (List Char)
  | 0, done => return done.reverse
  | fuel + 1, done => do
      match ← peek with
      | some c => if kind c then advance *> takeChars kind fuel (c :: done) else return done.reverse
      | none => return done.reverse

inductive Style where
  | plain
  | single
  | double
  | arithmetic
deriving DecidableEq, Repr, Inhabited

structure Level where
  style : Style
  /-- Whether the level ends at a brace. -/
  braces : Bool := false
  /-- Whether double quotes were opened between the braces. -/
  inner : Bool := false
  /-- Whether a double quote does not end the style, since the braces are quoted themselves. -/
  keeps : Bool := false
  /-- Open parentheses of arithmetic. -/
  depth : Nat := 0

def Level.piece (level : Level) (c : Char) : Piece :=
  match level.style with
  | .plain | .arithmetic => .char c
  | .single | .double => .plain c

/-- What a word is part of: a text in the script that ends at a marker, or the marker itself, in which
nothing is expanded. -/
structure Surroundings where
  marker : Option Pending := none
  isMarker : Bool := false

def dropTabs (input : List Char) : List Char := input.dropWhile (· == '\t')

def atMarker (surroundings : Surroundings) : Parsing Bool := do
  match surroundings.marker with
  | none => return false
  | some pending =>
      if pending.expands then modify Reader.joined
      let r ← get
      let input := if pending.trims then dropTabs r.input else r.input
      match Text.dropStart? pending.marker input with
      | some [] =>
          set { r with input := [], line := r.line + 1 }
          return true
      | some ('\n' :: rest) =>
          set { r with input := rest, line := r.line + 1 }
          return true
      | _ =>
          set { r with input := input }
          return false

def isSpecialName (c : Char) : Bool :=
  c == '$' || c == '?' || c == '#' || c == '@' || c == '*' || c == '!' || c == '-' || c.isDigit

def endsWord (c : Char) : Bool :=
  c == ' ' || c == '\t' || c == '\n' || c == ';' || c == '&' || c == '|' || c == '>' || c == '<' ||
    c == '(' || c == ')'

def formOf? : Char → Option Form
  | '\x7d' => some .value
  | '-' => some .otherwise
  | '+' => some .instead
  | '?' => some .required
  | '=' => some .assigned
  | _ => none

/-- What is known of a parameter in braces before its word: its name, its form, whether an empty value
counts as not set, and whether its closing brace was read already. -/
structure Opened where
  name : String
  form : Form
  orEmpty : Bool := false
  closed : Bool := false

def readForm (name : String) : Parsing Opened := do
  match ← peek with
  | none => return ⟨name, .unknown, false, false⟩
  | some ':' =>
      advance
      match ← peek with
      | none => return ⟨name, .unknown, true, false⟩
      | some c =>
          skip
          return ⟨name, (formOf? c).getD .unknown, true, false⟩
  | some '%' =>
      advance
      if (← peek) = some '%' then
        advance
        return ⟨name, .trimmedEnd true, false, false⟩
      else return ⟨name, .trimmedEnd false, false, false⟩
  | some '#' =>
      advance
      if (← peek) = some '#' then
        advance
        return ⟨name, .trimmedStart true, false, false⟩
      else return ⟨name, .trimmedStart false, false, false⟩
  | some c =>
      skip
      let form := (formOf? c).getD .unknown
      return ⟨name, form, false, form == .value⟩

def readName (fuel : Nat) : Parsing String := do
  match ← peek with
  | some c =>
      if startsName c then return String.ofList (← takeChars continuesName fuel [])
      else if c.isDigit then return String.ofList (← takeChars Char.isDigit fuel [])
      else return ""
  | none => return ""

def readOpened (fuel : Nat) : Parsing Opened := do
  let name ← readName fuel
  if name != "" then readForm name
  else match ← peek with
    | none | some '\x7d' => return ⟨"", .unknown, false, false⟩
    | some '#' =>
        advance
        let name ← readName fuel
        let counted (name : String) : Parsing Opened := do
          return ⟨name, if (← peek) = some '\x7d' then .length else .unknown, false, false⟩
        if name != "" then counted name
        else match ← peek with
          | none | some '\x7d' => readForm "#"
          | some c =>
              let r ← get
              advance
              if (← peek) = some '\x7d' then
                if isSpecialName c then counted (String.singleton c)
                else return ⟨"", .unknown, false, false⟩
              else
                set r
                readForm "#"
    | some c =>
        skip
        if isSpecialName c then readForm (String.singleton c)
        else return ⟨"", .unknown, false, false⟩

def readBackquoted (double : Bool) : (fuel : Nat) → (done : List Char) → Parsing (List Char)
  | 0, done => return done.reverse
  | fuel + 1, done => do
      match ← peek with
      | none => wrong "EOF in backquote substitution"
      | some '\x60' =>
          advance
          return done.reverse
      | some '\\' =>
          advance
          match (← get).input with
          | [] => wrong "EOF in backquote substitution"
          | c :: _ =>
              advance
              if c = '\\' || c = '\x60' || c = '$' || (double && c = '"') then
                readBackquoted double fuel (c :: done)
              else readBackquoted double fuel (c :: '\\' :: done)
      | some c =>
          advance
          readBackquoted double fuel (c :: done)

/-- How the scripts inside of words are read: one up to a closing parenthesis, and one that is all of a
text. -/
structure Nested where
  script : Parsing (Option Command)
  text : List Char → Parsing (Option Command)

def escapedPieces (surroundings : Surroundings) (level : Level) (c : Char) : Word :=
  if c = '\\' || c = '\x60' || c = '$' || (c = '"' && (surroundings.marker.isNone || level.braces)) ||
      (c = '\x7d' && level.braces) then [.plain c]
  else [.plain c, .plain '\\']

def endLevel (surroundings : Surroundings) (level : Level) (done : Word) (quoted : Bool) :
    Parsing (Word × Bool) := do
  if level.style == .arithmetic then wrong "Missing '))'"
  else if level.style != .plain && surroundings.marker.isNone then wrong "Unterminated quoted string"
  else if level.braces then wrong "Missing '\x7d'"
  else return (done.reverse, quoted)

/-- Reads the pieces of a level up to its end. `done` has those that were read, the latest first;
`quoted` tells whether there was a quote. -/
def readPieces (nested : Nested) (surroundings : Surroundings) : (fuel : Nat) → Level → (done : Word) →
    (quoted : Bool) → Parsing (Word × Bool)
  | 0, _, done, quoted => return (done.reverse, quoted)
  | fuel + 1, level, done, quoted => do
      if level.style != .single then modify Reader.joined
      let dollar : Parsing (Word × Bool) := do
        advance
        let next ← peek
        match next with
        | some '(' =>
            if surroundings.isMarker then
              readPieces nested surroundings fuel level (level.piece '$' :: done) quoted
            else
              advance
              if (← peek) = some '(' then
                advance
                let (inside, quotedInside) ←
                  readPieces nested surroundings fuel { style := .arithmetic } [] false
                readPieces nested surroundings fuel level (.arithmetic inside :: done)
                  (quoted || quotedInside)
              else
                let script ← nested.script
                readPieces nested surroundings fuel level (.output script :: done) quoted
        | some '\x7b' =>
            if surroundings.isMarker then
              readPieces nested surroundings fuel level (level.piece '$' :: done) quoted
            else
              advance
              let opened ← readOpened fuel
              if opened.closed then
                readPieces nested surroundings fuel level
                  (.parameter opened.name opened.form opened.orEmpty [] :: done) quoted
              else
                let style : Style :=
                  match opened.form with
                  | .trimmedStart _ | .trimmedEnd _ => .plain
                  | _ => if level.style == .arithmetic then .double else level.style
                let (word, quotedInside) ← readPieces nested surroundings fuel
                  { style := style, braces := true, keeps := style != .plain } [] false
                readPieces nested surroundings fuel level
                  (.parameter opened.name opened.form opened.orEmpty word :: done)
                  (quoted || quotedInside)
        | some c =>
            if surroundings.isMarker || !(startsName c || isSpecialName c) then
              readPieces nested surroundings fuel level (level.piece '$' :: done) quoted
            else
              let name ←
                if startsName c then takeChars continuesName fuel []
                else advance *> pure [c]
              readPieces nested surroundings fuel level
                (.parameter (String.ofList name) .value false [] :: done) quoted
        | none => readPieces nested surroundings fuel level (level.piece '$' :: done) quoted
      let backquote : Parsing (Word × Bool) := do
        advance
        if surroundings.isMarker then
          readPieces nested surroundings fuel level (level.piece '\x60' :: done) quoted
        else
          let text ← readBackquoted (level.style != .plain) fuel []
          let script ← nested.text text
          readPieces nested surroundings fuel level (.output script :: done) quoted
      let backslash : Parsing (Word × Bool) := do
        advance
        match (← get).input with
        | [] => readPieces nested surroundings fuel level (.plain '\\' :: done) quoted
        | c :: _ =>
            advance
            let pieces : Word :=
              if level.style == .plain then [.plain c] else escapedPieces surroundings level c
            readPieces nested surroundings fuel level (pieces ++ done) true
      let literal (c : Char) : Parsing (Word × Bool) := do
        advance
        readPieces nested surroundings fuel level (level.piece c :: done) quoted
      let marked := if surroundings.marker.isSome then done else .quote :: done
      match (← get).input with
      | [] => endLevel surroundings level done quoted
      | '\n' :: _ =>
          if level.style == .plain && !level.braces then return (done.reverse, quoted)
          else
            advance
            let done := level.piece '\n' :: done
            if ← atMarker surroundings then endLevel surroundings level done quoted
            else readPieces nested surroundings fuel level done quoted
      | c :: _ =>
          match level.style with
          | .single =>
              if c = '\'' && (surroundings.marker.isNone || level.braces) then
                advance
                readPieces nested surroundings fuel { level with style := .plain } marked true
              else literal c
          | .plain =>
              match c with
              | '\\' => backslash
              | '\'' =>
                  advance
                  readPieces nested surroundings fuel { level with style := .single } marked quoted
              | '"' =>
                  advance
                  readPieces nested surroundings fuel
                    { level with style := .double, inner := level.braces } marked quoted
              | '\x60' => backquote
              | '$' => dollar
              | '\x7d' =>
                  if level.braces then
                    advance
                    return (done.reverse, quoted)
                  else literal c
              | c => if endsWord c && !level.braces then return (done.reverse, quoted) else literal c
          | .double =>
              match c with
              | '\\' => backslash
              | '"' =>
                  if surroundings.marker.isSome && !level.braces then literal c
                  else
                    advance
                    readPieces nested surroundings fuel
                      { level with
                        style := if level.keeps then .double else .plain
                        inner := level.braces && !level.inner }
                      marked true
              | '\x60' => backquote
              | '$' => dollar
              | '\x7d' =>
                  if level.braces && !level.inner then
                    advance
                    return (done.reverse, quoted)
                  else literal c
              | c => literal c
          | .arithmetic =>
              match c with
              | '\\' => backslash
              | '\x60' => backquote
              | '$' => dollar
              | '(' =>
                  advance
                  readPieces nested surroundings fuel { level with depth := level.depth + 1 }
                    (.char c :: done) quoted
              | ')' =>
                  advance
                  if 0 < level.depth then
                    readPieces nested surroundings fuel { level with depth := level.depth - 1 }
                      (.char c :: done) quoted
                  else if (← peek) = some ')' then
                    advance
                    return (done.reverse, quoted)
                  else readPieces nested surroundings fuel level (.char c :: done) quoted
              | c => literal c

def markerText (word : Word) : List Char :=
  word.filterMap fun
    | .char c | .plain c => some c
    | _ => none

end Signpost.Program.Shell
