import Signpost.Text.Basic
import Signpost.Value.Text

/-! Writing texts and lists of texts in a TOML document.

A text takes the first of four forms that needs no escapes: in quotes, literal, and both of them
over several lines. Only a text that fits none is escaped. -/

namespace Signpost.Toml

def longestRun (c : Char) (current longest : Nat) : List Char → Nat
  | [] => max current longest
  | d :: rest =>
      if d = c then longestRun c (current + 1) longest rest
      else longestRun c 0 (max current longest) rest

def needsEscape (c : Char) : Bool := (c < ' ' && c != '\t' && c != '\n') || c == '\x7f'

/-- A character inside quotes; quotes are left to `escapedFrom`. -/
def escaped (multiline : Bool) (c : Char) : List Char :=
  match c with
  | '\\' => ['\\', '\\']
  | '\x08' => ['\\', 'b']
  | '\x0c' => ['\\', 'f']
  | '\r' => ['\\', 'r']
  | '\t' => ['\\', 't']
  | '\n' => if multiline then ['\n'] else ['\\', 'n']
  | c =>
      if needsEscape c then
        ['\\', 'u', '0', '0', (Value.hexDigit (c.toNat / 16)).toUpper, (Value.hexDigit c.toNat).toUpper]
      else [c]

/-- Characters inside quotes. On one line every quote is escaped, over several lines only a third
one in a row; `quotes` counts those that stand open. -/
def escapedFrom (multiline : Bool) (quotes : Nat) : List Char → List Char
  | [] => []
  | '"' :: rest =>
      if multiline && quotes < 2 then '"' :: escapedFrom multiline (quotes + 1) rest
      else '\\' :: '"' :: escapedFrom multiline 0 rest
  | c :: rest => escaped multiline c ++ escapedFrom multiline 0 rest

/-- A text as a value. Tabs do not count against a form, yet they are escaped inside quotes. -/
def writeText (text : String) : String :=
  let cs := text.toList
  let control := cs.any needsEscape
  let backslash := cs.contains '\\'
  let broken := cs.contains '\n'
  let double := longestRun '"' 0 0 cs
  let single := longestRun '\'' 0 0 cs
  let start := if broken then "\n" else ""
  let short := "\"" ++ String.ofList (escapedFrom false 0 cs) ++ "\""
  let long := "\"\"\"" ++ start ++ String.ofList (escapedFrom true 0 cs) ++ "\"\"\""
  if !control && !backslash && double == 0 && !broken then short
  else if !control && single == 0 && !broken then "'" ++ text ++ "'"
  else if !control && !backslash && double ≤ 2 then long
  else if !control && single ≤ 2 then "'''" ++ start ++ text ++ "'''"
  else if broken then long
  else short

def writeTexts : List String → String
  | [] => "[]"
  | [text] => "[" ++ writeText text ++ "]"
  | texts => "[\n" ++ String.join (texts.map fun text => "    " ++ writeText text ++ ",\n") ++ "]"

end Signpost.Toml
