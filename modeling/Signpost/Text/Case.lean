import Signpost.Text.Letter.Case
import Signpost.Text.Letter.Class

/-! Lower and upper case of whole texts.

ASCII letters are mapped directly; all others go through the tables of the standard. The lower case
of a capital sigma depends on its neighbours: it is final where a word ends. -/

namespace Signpost.Text

/-- Word characters: letters, marks, decimal digits and connectors such as the underscore. -/
def isWord (c : Char) : Bool :=
  if c.toNat < 0x80 then c.isAlphanum || c == '_' else Letter.within Letter.word c.toNat

def isCased (c : Char) : Bool :=
  if c.toNat < 0x80 then c.isAlpha else Letter.within Letter.cased c.toNat

def isCaseIgnorable (c : Char) : Bool := Letter.within Letter.caseIgnorable c.toNat

def nearCased (neighbours : List Char) : Bool :=
  match neighbours.dropWhile isCaseIgnorable with
  | [] => false
  | c :: _ => isCased c

def lowerOf (c : Char) : List Char :=
  if c.toNat < 0x80 then [c.toLower]
  else if c = 'İ' then ['i', '\u0307']
  else match Letter.shift Letter.lowerRuns c.toNat with
    | some point => [Char.ofNat point]
    | none => [c]

def upperOf (c : Char) : List Char :=
  if c.toNat < 0x80 then [c.toUpper]
  else match Letter.upperGroups.lookup c.toNat with
    | some points => points.map Char.ofNat
    | none => match Letter.shift Letter.upperRuns c.toNat with
      | some point => [Char.ofNat point]
      | none => [c]

/-- `before` holds the characters already passed, nearest first. -/
def lowerFrom (before : List Char) : List Char → List Char
  | [] => []
  | c :: rest =>
      let low :=
        if c = 'Σ' then
          [if nearCased before && !nearCased rest then 'ς' else 'σ']
        else lowerOf c
      low ++ lowerFrom (c :: before) rest

def lower (text : String) : String := String.ofList (lowerFrom [] text.toList)

def upper (text : String) : String := String.ofList (text.toList.flatMap upperOf)

end Signpost.Text
