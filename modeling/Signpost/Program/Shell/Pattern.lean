import Signpost.Text.Basic
import Signpost.Program.Paths

/-! Patterns: `*` stands for any text, `?` for any byte, brackets for one byte of a set, and a
backslash takes the meaning from the byte behind it. -/

namespace Signpost.Program.Shell.Pattern

def classes : List (String × (Char → Bool)) :=
  let isPunctuation (c : Char) : Bool := '!' ≤ c && c ≤ '~' && !c.isAlphanum
  [("alnum", Char.isAlphanum), ("alpha", Char.isAlpha), ("blank", fun c => c == ' ' || c == '\t'),
    ("cntrl", fun c => c < ' ' || c == '\x7f'), ("digit", Char.isDigit),
    ("graph", fun c => '!' ≤ c && c ≤ '~'), ("lower", Char.isLower),
    ("print", fun c => ' ' ≤ c && c ≤ '~'), ("punct", isPunctuation),
    ("space", fun c => c == ' ' || ('\t' ≤ c && c ≤ '\r')), ("upper", Char.isUpper),
    ("xdigit", fun c => c.isDigit || ('a' ≤ c && c ≤ 'f') || ('A' ≤ c && c ≤ 'F'))]

def readClass? (pattern : List Char) : Option ((Char → Bool) × List Char) :=
  classes.findSome? fun (name, holds) =>
    (Text.dropStart? (":" ++ name ++ ":]").toList pattern).map fun rest => (holds, rest)

/-- The value by which bytes are ordered in ranges: those above the middle are negative. -/
def order (c : Char) : Int := if c.toNat < 128 then c.toNat else (c.toNat : Int) - 256

def rangeEnd? : List Char → Option (Char × List Char)
  | '-' :: ']' :: _ => none
  | '-' :: '\\' :: c :: rest => some (c, rest)
  | '-' :: c :: rest => some (c, rest)
  | _ => none

def inSet? (c : Char) : (fuel : Nat) → (found : Bool) → List Char → Option (Bool × List Char)
  | 0, _, _ => none
  | _, _, [] => none
  | fuel + 1, found, first :: rest =>
      let continue_ (found : Bool) : List Char → Option (Bool × List Char)
        | ']' :: rest => some (found, rest)
        | rest => inSet? c fuel found rest
      let element (first : Char) (rest : List Char) : Option (Bool × List Char) :=
        match rangeEnd? rest with
        | some (last, rest) =>
            continue_ (found || (order first ≤ order c && order c ≤ order last)) rest
        | none => continue_ (found || c == first) rest
      if first = '[' then
        match readClass? rest with
        | some (holds, rest) => continue_ (found || holds c) rest
        | none => element first rest
      else if first = '\\' then
        match rest with
        | second :: rest => element second rest
        | [] => none
      else element first rest

def ends : List Char → List (List Char)
  | [] => [[]]
  | c :: rest => (c :: rest) :: ends rest

def matchesWithin : (fuel : Nat) → (pattern text : List Char) → Bool
  | 0, _, _ => false
  | _, [], text => text.isEmpty
  | fuel + 1, p :: pattern, text =>
      let literal (p : Char) (pattern : List Char) : Bool :=
        match text with
        | c :: rest => p == c && matchesWithin fuel pattern rest
        | [] => false
      match p with
      | '\\' =>
          match pattern with
          | second :: pattern => literal second pattern
          | [] => literal '\\' []
      | '?' =>
          match text with
          | _ :: rest => matchesWithin fuel pattern rest
          | [] => false
      | '*' =>
          let pattern := pattern.dropWhile (· == '*')
          (ends text).any fun text => matchesWithin fuel pattern text
      | '[' =>
          match text with
          | [] => false
          | c :: rest =>
              let (invert, set) := match pattern with
                | '!' :: set => (true, set)
                | set => (false, set)
              match inSet? c (set.length + 1) false set with
              | some (found, pattern) => found != invert && matchesWithin fuel pattern rest
              | none => literal '[' pattern
      | p => literal p pattern

def covers (pattern text : List Char) : Bool := matchesWithin (pattern.length + 1) pattern text

def isOpen : List Char → Bool
  | [] => false
  | '\\' :: _ :: rest => isOpen rest
  | c :: rest => c == '*' || c == '?' || c == '[' || isOpen rest

end Signpost.Program.Shell.Pattern

/-! Names of files that a pattern stands for.

Each step of a path is a pattern of its own. A name that begins with a point is found only by a pattern
that begins with one. -/

namespace Signpost.Program.Shell

def patternSteps : List Char → List (List Char)
  | [] => [[]]
  | '\\' :: '/' :: rest | '/' :: rest => [] :: patternSteps rest
  | '\\' :: c :: rest =>
      match patternSteps rest with
      | step :: others => ('\\' :: c :: step) :: others
      | [] => [['\\', c]]
  | c :: rest =>
      match patternSteps rest with
      | step :: others => (c :: step) :: others
      | [] => [[c]]

def unprotected : List Char → List Char
  | [] => []
  | '\\' :: c :: rest => c :: unprotected rest
  | c :: rest => c :: unprotected rest

def namesHidden : List Char → Bool
  | '\\' :: '.' :: _ | '.' :: _ => true
  | _ => false

def pathsFrom (s : State) (path : List Char) (found : Bool) : List (List Char) → List (List Char)
  | [] => []
  | [step] =>
      if Pattern.isOpen step then (candidates s path step).map fun name => path ++ name
      else
        let path := path ++ unprotected step
        if found && (s.find (String.ofList path)).isOk then [path] else []
  | step :: steps =>
      if Pattern.isOpen step then
        (candidates s path step).flatMap fun name => pathsFrom s (path ++ name ++ ['/']) true steps
      else pathsFrom s (path ++ unprotected step ++ ['/']) found steps
where
  /-- The names in a directory that a pattern stands for. -/
  candidates (s : State) (path step : List Char) : List (List Char) :=
    match s.find (if path.isEmpty then "." else String.ofList path) with
    | .ok (.directory place) =>
        let names := [".", ".."] ++ (s.namesIn place).map Text.toRaw
        (names.map String.toList).filter fun name =>
          (namesHidden step || name.head? != some '.') && Pattern.covers step name
    | _ => []

def filesMatching (s : State) (pattern : List Char) : List String :=
  if Pattern.isOpen pattern then
    ((pathsFrom s [] false (patternSteps pattern)).map String.ofList).mergeSort fun a b => a ≤ b
  else []

end Signpost.Program.Shell
