import Signpost.Number.Reading
import Signpost.Value.Basic
import Signpost.Text.Basic

/-! Reading a value from text.

A reader returns the value and the text that follows it, or nothing when the text is malformed.
Values nest at most `nesting` levels deep, which also bounds the recursion. -/

namespace Signpost.Value

def nesting : Nat := 127

def isSpace (c : Char) : Bool := c == ' ' || c == '\n' || c == '\t' || c == '\r'

def skipSpace (text : List Char) : List Char := text.dropWhile isSpace

def hexValue? (c : Char) : Option Nat :=
  if '0' ≤ c ∧ c ≤ '9' then some (c.toNat - '0'.toNat)
  else if 'a' ≤ c ∧ c ≤ 'f' then some (c.toNat - 'a'.toNat + 10)
  else if 'A' ≤ c ∧ c ≤ 'F' then some (c.toNat - 'A'.toNat + 10)
  else none

def unit? (a b c d : Char) : Option Nat := do
  let a ← hexValue? a
  let b ← hexValue? b
  let c ← hexValue? c
  let d ← hexValue? d
  return ((a * 16 + b) * 16 + c) * 16 + d

def escape? : Char → Option Char
  | '"' => some '"'
  | '\\' => some '\\'
  | '/' => some '/'
  | 'b' => some '\x08'
  | 'f' => some '\x0c'
  | 'n' => some '\n'
  | 'r' => some '\r'
  | 't' => some '\t'
  | _ => none

/-- A text up to its closing quote. An escaped surrogate counts only as half of a pair. -/
def quotedText? : List Char → Option (List Char × List Char)
  | [] => none
  | '"' :: rest => some ([], rest)
  | '\\' :: 'u' :: a :: b :: c :: d :: rest =>
      match unit? a b c d with
      | none => none
      | some high =>
          if 0xd800 ≤ high ∧ high < 0xdc00 then
            match rest with
            | '\\' :: 'u' :: e :: f :: g :: h :: rest =>
                match unit? e f g h with
                | none => none
                | some low =>
                    if 0xdc00 ≤ low ∧ low < 0xe000 then
                      (quotedText? rest).map fun (cs, rest) =>
                        (Char.ofNat (0x10000 + (high - 0xd800) * 0x400 + (low - 0xdc00)) :: cs, rest)
                    else none
            | _ => none
          else if 0xdc00 ≤ high ∧ high < 0xe000 then none
          else (quotedText? rest).map fun (cs, rest) => (Char.ofNat high :: cs, rest)
  | '\\' :: c :: rest =>
      match escape? c with
      | none => none
      | some c => (quotedText? rest).map fun (cs, rest) => (c :: cs, rest)
  | c :: rest =>
      if c < ' ' ∨ c = '\\' then none else (quotedText? rest).map fun (cs, rest) => (c :: cs, rest)

def listItems? (item? : List Char → Option (Value × List Char)) :
    (limit : Nat) → List Char → Option (List Value × List Char)
  | 0, _ => none
  | limit + 1, text => do
      let (item, rest) ← item? text
      match skipSpace rest with
      | ',' :: rest =>
          let (others, rest) ← listItems? item? limit rest
          return (item :: others, rest)
      | ']' :: rest => return ([item], rest)
      | _ => none

def recordFields? (item? : List Char → Option (Value × List Char)) :
    (limit : Nat) → List Char → Option (List (String × Value) × List Char)
  | 0, _ => none
  | limit + 1, text =>
      match skipSpace text with
      | '"' :: rest => do
          let (name, rest) ← quotedText? rest
          match skipSpace rest with
          | ':' :: rest =>
              let (value, rest) ← item? rest
              match skipSpace rest with
              | ',' :: rest =>
                  let (others, rest) ← recordFields? item? limit rest
                  return ((String.ofList name, value) :: others, rest)
              | '}' :: rest => return ([(String.ofList name, value)], rest)
              | _ => none
          | _ => none
      | _ => none

/-- One value at the start of a text, with at most `depth` enclosing lists and records. -/
def valueWithin? (depth : Nat) (text : List Char) : Option (Value × List Char) :=
  match skipSpace text with
  | 'n' :: 'u' :: 'l' :: 'l' :: rest => some (.null, rest)
  | 't' :: 'r' :: 'u' :: 'e' :: rest => some (.bool true, rest)
  | 'f' :: 'a' :: 'l' :: 's' :: 'e' :: rest => some (.bool false, rest)
  | '"' :: rest => (quotedText? rest).map fun (cs, rest) => (.str (String.ofList cs), rest)
  | '[' :: rest =>
      match depth with
      | 0 => none
      | depth + 1 =>
          match skipSpace rest with
          | ']' :: rest => some (.arr [], rest)
          | rest =>
              (listItems? (valueWithin? depth) rest.length rest).map fun (items, rest) =>
                (.arr items, rest)
  | '{' :: rest =>
      match depth with
      | 0 => none
      | depth + 1 =>
          match skipSpace rest with
          | '}' :: rest => some (.obj [], rest)
          | rest =>
              (recordFields? (valueWithin? depth) rest.length rest).map fun (written, rest) =>
                (.obj written, rest)
  | text => (Number.read? text).map fun (n, rest) => (.num n, rest)

/-- Reads a whole text as one value whose records hold their fields as written, a repeated field
several times. -/
def readWritten? (text : String) : Option Value :=
  match valueWithin? nesting text.toList with
  | some (value, rest) => if (skipSpace rest).isEmpty then some value else none
  | none => none

def read? (text : String) : Option Value := (readWritten? text).map merged

end Signpost.Value
