import Signpost.Template.Arithmetic
import Signpost.Template.Format
import Signpost.Text.Basic
import Signpost.Text.Case

/-! Filters on texts. -/

namespace Signpost.Text

/-- The text with every occurrence of `old` replaced, from the left. `passed` counts characters that
belong to an occurrence already replaced. -/
def replacedFrom (old new : List Char) (passed : Nat) : List Char → List Char
  | [] => []
  | c :: rest =>
      match passed with
      | passed + 1 => replacedFrom old new passed rest
      | 0 =>
          if old.isPrefixOf (c :: rest) then new ++ replacedFrom old new (old.length - 1) rest
          else c :: replacedFrom old new 0 rest

/-- Replaces every occurrence of a text. The empty text occurs around every character. -/
def replaced (old new text : List Char) : List Char :=
  if old.isEmpty then new ++ text.flatMap fun c => c :: new
  else replacedFrom old new 0 text

/-- The pieces between the occurrences of a text that is not empty, at most `count + 1` of them. -/
def piecesFrom (mark : List Char) (count passed : Nat) : List Char → List (List Char)
  | [] => [[]]
  | c :: rest =>
      match passed with
      | passed + 1 => piecesFrom mark count passed rest
      | 0 =>
          if 0 < count && mark.isPrefixOf (c :: rest) then
            [] :: piecesFrom mark (count - 1) (mark.length - 1) rest
          else match piecesFrom mark count 0 rest with
            | [] => [[c]]
            | first :: others => (c :: first) :: others

/-- The pieces between the occurrences of a text, at most `count + 1` of them. The empty text occurs
around every character. -/
def pieces (mark : List Char) (count : Nat) (text : List Char) : List (List Char) :=
  if mark.isEmpty then
    let all := [] :: (text.map fun c => [c]) ++ [[]]
    if all.length ≤ count + 1 then all
    else all.take count ++ [(all.drop count).flatten]
  else piecesFrom mark count 0 text

def visibleWords (text : List Char) : List (List Char) :=
  (text.splitBy fun a b => isBlank a == isBlank b).filter fun word => !word.all isBlank

/-- The first `count` runs of visible characters and then the rest of the text, which may be blank. -/
def leadingWords : (count : Nat) → (text : List Char) → List (List Char)
  | count, text =>
      match text.dropWhile isBlank, count with
      | [], _ => if text.isEmpty then [] else [text]
      | rest, 0 => [rest]
      | rest, count + 1 =>
          let word := rest.takeWhile fun c => !isBlank c
          word :: leadingWords count (rest.drop word.length)

def lines (text : List Char) : List (List Char) :=
  let parts := fields '\n' text
  let broken := parts.dropLast.map fun line =>
    if line.getLast? = some '\r' then line.dropLast else line
  match parts.getLast? with
  | some [] | none => broken
  | some last => broken ++ [last]

/-- Upper case for the first letter of each word and lower case for the others. Words end at blanks and
at ASCII punctuation. -/
def titled (inWord : Bool) : List Char → List Char
  | [] => []
  | c :: rest =>
      let isMark := c.toNat < 0x7f && 0x20 < c.toNat && !c.isAlphanum
      if isMark || isBlank c then c :: titled false rest
      else (if inWord then lowerOf c else upperOf c) ++ titled true rest

def capitalized : List Char → List Char
  | [] => []
  | c :: rest => upperOf c ++ (lower (String.ofList rest)).toList

def trimmedOf (drop : Char → Bool) (text : List Char) : List Char :=
  ((text.dropWhile drop).reverse.dropWhile drop).reverse

end Signpost.Text

namespace Signpost.Template

def dropEnd (last : Char) (text : List Char) : List Char :=
  if text.getLast? = some last then text.dropLast else text

def indented (width : Nat) (first blank : Bool) (text : List Char) : List Char :=
  let margin := List.replicate width ' '
  let lead (line : List Char) : List Char :=
    if line.isEmpty then (if blank then margin else []) else margin ++ line
  let parts := Text.fields '\n' (dropEnd '\r' (dropEnd '\n' text))
  let parts := match parts with
    | line :: others => (if first then lead line else line) :: others.map lead
    | [] => []
  dropEnd '\r' (dropEnd '\n' (parts.flatMap fun line => line ++ ['\n']))

def joined (joiner : String) (items : List Datum) : String :=
  items.foldl (fun text item =>
    (if text.isEmpty then text else text ++ joiner) ++ item.printed) ""

namespace Filter

def ofText (change : String → String) (value : Datum) : Take Datum :=
  return .ofText (change value.printed)

def ofChars (change : List Char → List Char) (value : Datum) : Take Datum :=
  return .ofChars (change value.printed.toList)

def safe (value : Datum) : Take Datum := return .text value.printed true

def escape (value : Datum) : Take Datum :=
  return if value.isSafe then value else .text value.escaped true

def string (value : Datum) : Take Datum :=
  return match value with
    | .text _ _ => value
    | value => .ofText value.printed

def trim (value : Datum) : Take Datum := do
  let drop? ← Take.optionalPrinted
  let text := value.printed.toList
  return .ofChars (match drop? with
    | some drop => Text.trimmedOf (fun c => drop.contains c) text
    | none => Text.trimChars text)

def replace (value : Datum) : Take Datum := do
  let old ← Take.printed
  let new ← Take.printed
  return .ofChars (Text.replaced old.toList new.toList value.printed.toList)

def stream (pieces : List (List Char)) : Datum := .stream (pieces.map Datum.ofChars) false

def split (value : Datum) : Take Datum := do
  let text ← Take.sure value.text?
  let mark? ← Take.optionalText
  let count? ← Take.optionalInteger (-9223372036854775808) 9223372036854775807
  let count? := (count?.filter (0 ≤ ·)).map Int.toNat
  return stream (match mark?, count? with
    | some mark, some count => Text.pieces mark.toList count text.toList
    | some mark, none => Text.pieces mark.toList text.utf8ByteSize.succ.succ text.toList
    | none, some count => Text.leadingWords count text.toList
    | none, none => Text.visibleWords text.toList)

def lines (value : Datum) : Take Datum := do
  let text ← Take.sure value.text?
  return stream (Text.lines text.toList)

def join (value : Datum) : Take Datum := do
  let joiner := (← Take.optionalPrinted).getD ""
  let items ← Take.sure value.items?
  return .ofText (joined joiner items)

def indent (value : Datum) : Take Datum := do
  let width ← Take.count
  let first := (← Take.optionalTruth).getD false
  let blank := (← Take.optionalTruth).getD false
  if repetitionBound < width then throw .argument
  else return .ofChars (indented width first blank value.printed.toList)

def pretty (value : Datum) : Take Datum := return .ofText (value.pretty 0)

end Filter

end Signpost.Template
