import Signpost.Template.Datum
import Signpost.Text.Letter.Hidden
import Signpost.Text.Basic

/-! How data are printed.

A text stands as it is, but inside a list or map it is quoted. Lists and maps are printed on one line,
or one item to a line. -/

namespace Signpost.Text

def hexadecimal (n : Nat) : String := String.ofList (Nat.toDigits 16 n)

def quotedChar (c : Char) : String :=
  match c with
  | '"' => "\\\""
  | '\\' => "\\\\"
  | '\n' => "\\n"
  | '\r' => "\\r"
  | '\t' => "\\t"
  | '\x00' => "\\0"
  | c =>
      if Letter.within Letter.hidden c.toNat then "\\u\x7b" ++ hexadecimal c.toNat ++ "\x7d"
      else String.singleton c

def quoted (text : String) : String :=
  "\"" ++ String.join (text.toList.map quotedChar) ++ "\""

end Signpost.Text

namespace Signpost.Template

def plainReal (x : Double) : String :=
  if x.isNaN then "NaN"
  else
    let sign := if x.negative then "-" else ""
    if !x.isFinite then sign ++ "inf"
    else if x.isZero then sign ++ "0.0"
    else sign ++ x.positionalDigits

/-- A double inside a list or map: very large and very small ones have an exponent. -/
def innerReal (x : Double) : String :=
  if !x.isFinite || x.isZero then plainReal x
  else
    let (digits, power) := x.leadingDigits
    if power < -4 || 16 ≤ power then
      (if x.negative then "-" else "") ++ digits ++ "e" ++ toString power
    else plainReal x

namespace Datum

def listed (parts : List String) : String := "[" ++ Text.join ", " parts ++ "]"

def mapped (parts : List String) : String := "\x7b" ++ Text.join ", " parts ++ "\x7d"

mutual
def inner : Datum → String
  | .undefined => "undefined"
  | .null => "None"
  | .bool value => if value then "True" else "False"
  | .int n => toString n
  | .real x => innerReal x
  | .text value _ => Text.quoted value
  | .list items _ | .stream items true => listed (innerItems items)
  | .stream _ false => "<iterator>"
  | .map entries | .options entries | .object _ none entries => mapped (innerEntries entries)
  | .object _ (some shown) _ => shown

def innerItems : List Datum → List String
  | [] => []
  | item :: items => item.inner :: innerItems items

def innerEntries : List (Datum × Datum) → List String
  | [] => []
  | (key, value) :: entries => (key.inner ++ ": " ++ value.inner) :: innerEntries entries
end

def printed : Datum → String
  | .undefined => ""
  | .text value _ => value
  | .real x => plainReal x
  | value => value.inner

def spread (first last : String) (indent : Nat) (parts : List String) : String :=
  if parts.isEmpty then first ++ last
  else
    let margin := String.ofList (List.replicate indent ' ')
    first ++ "\n" ++ String.join (parts.map fun part => margin ++ "    " ++ part ++ ",\n") ++
      margin ++ last

mutual
def pretty (indent : Nat) : Datum → String
  | .list items _ | .stream items true => spread "[" "]" indent (prettyItems (indent + 4) items)
  | .map entries | .options entries | .object _ none entries =>
      spread "\x7b" "\x7d" indent (prettyEntries (indent + 4) entries)
  | value => value.inner

def prettyItems (indent : Nat) : List Datum → List String
  | [] => []
  | item :: items => item.pretty indent :: prettyItems indent items

def prettyEntries (indent : Nat) : List (Datum × Datum) → List String
  | [] => []
  | (key, value) :: entries =>
      (key.pretty indent ++ ": " ++ value.pretty indent) :: prettyEntries indent entries
end

end Datum

def markedUp (c : Char) : String :=
  match c with
  | '&' => "&amp;"
  | '<' => "&lt;"
  | '>' => "&gt;"
  | '"' => "&quot;"
  | '\'' => "&#x27;"
  | '/' => "&#x2f;"
  | c => String.singleton c

/-- A datum as it is printed in marked-up text. Safe text is left alone. -/
def Datum.escaped (value : Datum) : String :=
  if value.isSafe then value.printed
  else String.join (value.printed.toList.map markedUp)

end Signpost.Template
