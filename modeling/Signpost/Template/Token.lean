import Signpost.Number.Arithmetic
import Signpost.Template.Datum
import Signpost.Text.Basic

/-! Templates as tokens.

A template is text with tags. The text between tags is one token, a tag is an opening token, the
tokens of its words, and a closing one. A mark with a minus takes the blanks beside it away. End marks
count only where all brackets of the template are closed. -/

namespace Signpost.Template

inductive TagKind where
  | print
  | order
deriving DecidableEq, Repr, Inhabited

inductive Token where
  | data (text : String)
  | opening (kind : TagKind)
  | closing (kind : TagKind)
  | name (text : String)
  | text (value : String)
  | int (value : Nat)
  | real (value : Double)
  | symbol (text : String)
deriving DecidableEq, Repr, Inhabited

inductive Trim where
  | usual
  | keep
  | remove
deriving DecidableEq, Repr, Inhabited

def Trim.ofChar? : Option Char → Trim
  | some '-' => .remove
  | some '+' => .keep
  | _ => .usual

def Trim.read : List Char → Trim × List Char
  | '-' :: rest => (.remove, rest)
  | '+' :: rest => (.keep, rest)
  | rest => (.usual, rest)

def isGap (c : Char) : Bool :=
  c == ' ' || c == '\t' || c == '\n' || c == '\r' || c == '\x0c'

def isNameStart (c : Char) : Bool := c.isAlpha || c == '_'

def isNameChar (c : Char) : Bool := c.isAlphanum || c == '_'

/-! ## Quoted text -/

def hexDigit? (c : Char) : Option Nat :=
  if c.isDigit then some (c.toNat - '0'.toNat)
  else if 'a' ≤ c ∧ c ≤ 'f' then some (c.toNat - 'a'.toNat + 10)
  else if 'A' ≤ c ∧ c ≤ 'F' then some (c.toNat - 'A'.toNat + 10)
  else none

def octalDigit? (c : Char) : Option Nat :=
  if '0' ≤ c ∧ c ≤ '7' then some (c.toNat - '0'.toNat) else none

def numeral? (base : Nat) (digit? : Char → Option Nat) (cs : List Char) : Option Nat :=
  if cs.isEmpty then none
  else cs.foldlM (fun n c => (digit? c).map (n * base + ·)) 0

/-- A code unit of four characters: digits in base sixteen, the first of which may be a plus. -/
def codeUnit? (cs : List Char) : Option Nat :=
  if cs.length < 4 then none
  else numeral? 16 hexDigit? (match cs with
    | '+' :: rest => rest
    | cs => cs)

def paired (high low : Nat) : Char :=
  Char.ofNat (0x10000 + (high - 0xd800) * 0x400 + (low - 0xdc00))

/-- The text between quotation marks, escapes read. A first half that waits for its second one is
passed along. -/
def unescaped (waiting : Option Nat) : (fuel : Nat) → List Char → Option (List Char)
  | 0, _ => none
  | _ + 1, [] => if waiting.isSome then none else some []
  | fuel + 1, '\\' :: 'u' :: rest => do
      let unit ← codeUnit? (rest.take 4)
      let after := rest.drop 4
      let isHigh := 0xd800 ≤ unit && unit < 0xdc00
      let isLow := 0xdc00 ≤ unit && unit < 0xe000
      match waiting with
      | some high =>
          if isLow then return paired high unit :: (← unescaped none fuel after) else none
      | none =>
          if isHigh then unescaped (some unit) fuel after
          else if isLow then none
          else return Char.ofNat unit :: (← unescaped none fuel after)
  | fuel + 1, c :: rest =>
      if waiting.isSome then none
      else if c ≠ '\\' then (unescaped none fuel rest).map (c :: ·)
      else
        let simple (c : Char) (rest : List Char) := (unescaped none fuel rest).map (c :: ·)
        match rest with
        | [] => none
        | '"' :: rest => simple '"' rest
        | '\\' :: rest => simple '\\' rest
        | '/' :: rest => simple '/' rest
        | '\'' :: rest => simple '\'' rest
        | 'b' :: rest => simple '\x08' rest
        | 'f' :: rest => simple '\x0c' rest
        | 'n' :: rest => simple '\n' rest
        | 'r' :: rest => simple '\r' rest
        | 't' :: rest => simple '\t' rest
        | 'x' :: rest =>
            if rest.length < 2 then none
            else (numeral? 16 hexDigit? (rest.take 2)).bind fun n => simple (Char.ofNat n) (rest.drop 2)
        | c :: rest =>
            if (octalDigit? c).isSome then
              let digits := c :: (rest.take 2).takeWhile fun c => (octalDigit? c).isSome
              (numeral? 8 octalDigit? digits).bind fun n =>
                if n < 256 then simple (Char.ofNat n) ((c :: rest).drop digits.length) else none
            else (simple c rest).map ('\\' :: ·)

def quotedSpan (quote : Char) : List Char → Option (List Char × List Char)
  | [] => none
  | '\\' :: [] => none
  | '\\' :: c :: rest => (quotedSpan quote rest).map fun (held, after) => ('\\' :: c :: held, after)
  | c :: rest =>
      if c = quote then some ([], rest)
      else (quotedSpan quote rest).map fun (held, after) => (c :: held, after)

def quotedToken (quote : Char) (cs : List Char) : Option (Token × List Char) := do
  let (held, rest) ← quotedSpan quote cs
  let value ← unescaped none (held.length + 1) held
  return (.text (String.ofList value), rest)

/-! ## Numbers -/

inductive NumberPart where
  | based (sixteen : Bool)
  | whole
  | fraction
  | mark
  | exponent
deriving DecidableEq, Repr

def NumberPart.next? (part : NumberPart) (c : Char) : Option NumberPart :=
  if c = '_' then some part
  else if c.isDigit then some (if part = .mark then .exponent else part)
  else match part with
    | .based true => if (hexDigit? c).isSome then some part else none
    | .whole =>
        if c = '.' then some .fraction
        else if c = 'e' || c = 'E' then some .mark else none
    | .fraction => if c = 'e' || c = 'E' then some .mark else none
    | .mark => if c = '+' || c = '-' then some .exponent else none
    | _ => none

def numberSpan (part : NumberPart) : List Char → List Char × NumberPart × List Char
  | [] => ([], part, [])
  | c :: rest =>
      match part.next? c with
      | none => ([], part, c :: rest)
      | some part =>
          let (span, last, after) := numberSpan part rest
          (c :: span, last, after)

def wholeToken? (base : Nat) (digits : List Char) : Option Token :=
  ((numeral? base hexDigit? digits).filter (· < Nat.pow 2 128)).map .int

def numberToken (cs : List Char) : Option (Token × List Char) :=
  let (base, lead) := match cs with
    | '0' :: c :: _ =>
        if c = 'b' || c = 'B' then (2, 2)
        else if c = 'o' || c = 'O' then (8, 2)
        else if c = 'x' || c = 'X' then (16, 2)
        else (10, 0)
    | _ => (10, 0)
  let start : NumberPart := if base = 10 then .whole else .based (base = 16)
  let (span, last, rest) := numberSpan start (cs.drop lead)
  let digits := span.filter (· ≠ '_')
  if span.getLast? = some '_' then none
  else
    let isWhole := match last with
      | .whole | .based _ => true
      | _ => false
    if isWhole then
      if digits.all fun c => (hexDigit? c).any (· < base) then
        (wholeToken? base digits).map (·, rest)
      else none
    else (Double.magnitudeText? false digits).map fun x => (.real x, rest)

/-! ## Tags -/

def pairs : List String := ["//", "**", "==", "!=", ">=", "<="]

def singles : List Char :=
  ['+', '-', '*', '/', '%', '.', ',', ':', '~', '|', '=', '>', '<', '(', ')', '[', ']', '\x7b', '\x7d']

def bracketChange (c : Char) : Int :=
  if c = '(' || c = '[' || c = '\x7b' then 1
  else if c = ')' || c = ']' || c = '\x7d' then -1
  else 0

def TagKind.mark : TagKind → List Char
  | .print => ['\x7d', '\x7d']
  | .order => ['%', '\x7d']

def TagKind.ended? (kind : TagKind) (cs : List Char) : Option (Trim × List Char) :=
  match Text.dropStart? kind.mark cs with
  | some rest => some (.usual, rest)
  | none =>
      match cs with
      | '-' :: cs => (Text.dropStart? kind.mark cs).map (.remove, ·)
      | '+' :: cs => (Text.dropStart? kind.mark cs).map (.keep, ·)
      | _ => none

def word? (cs : List Char) : Option (Token × List Char) :=
  match cs with
  | [] => none
  | c :: rest =>
      if c = '"' || c = '\'' then quotedToken c rest
      else if c.isDigit then numberToken cs
      else if isNameStart c then
        some (.name (String.ofList (cs.takeWhile isNameChar)), cs.dropWhile isNameChar)
      else
        let two := String.ofList (cs.take 2)
        if pairs.contains two then some (.symbol two, rest.drop 1)
        else if singles.contains c then some (.symbol (String.singleton c), rest)
        else none

abbrev Open := Option TagKind

def untilMark : List Char → List Char × Option (Char × List Char)
  | '\x7b' :: c :: rest =>
      if c = '\x7b' || c = '%' || c = '#' then ([], some (c, rest))
      else
        let (text, mark) := untilMark (c :: rest)
        ('\x7b' :: text, mark)
  | c :: rest =>
      let (text, mark) := untilMark rest
      (c :: text, mark)
  | [] => ([], none)

def cutAt (mark : List Char) : List Char → Option (List Char × List Char)
  | [] => none
  | c :: rest =>
      match Text.dropStart? mark (c :: rest) with
      | some after => some ([], after)
      | none => (cutAt mark rest).map fun (before, after) => (c :: before, after)

/-- The text after a comment and how its end treats blanks. The sign of the end mark is the character
before it, or the mark itself when there is none. -/
def afterComment (cs : List Char) : Option (Trim × List Char) :=
  (cutAt ['#', '\x7d'] cs).map fun (held, after) =>
    (Trim.ofChar? (held.getLast?), after)

def plainTag? (name : String) (cs : List Char) : Option (Trim × List Char) := do
  let rest ← Text.dropStart? name.toList (cs.dropWhile isGap)
  let (trim, rest) := Trim.read (rest.dropWhile isGap)
  return (trim, ← Text.dropStart? TagKind.order.mark rest)

def rawSection : List Char → Option (List Char × Trim × Trim × List Char)
  | [] => none
  | c :: rest =>
      let here := do
        let tag ← Text.dropStart? ['\x7b', '%'] (c :: rest)
        let (before, body) := Trim.read tag
        let (behind, after) ← plainTag? "endraw" body
        return ([], before, behind, after)
      match here with
      | some found => some found
      | none => (rawSection rest).map fun (text, others) => (c :: text, others)

def dataToken (cs : List Char) : List Token :=
  if cs.isEmpty then [] else [.data (String.ofList cs)]

/-- The tokens of a template. `state` is the open tag, `brackets` counts open brackets, and `trim` says
how the mark before treats the blanks that follow it. -/
def tokens : (fuel : Nat) → (state : Open) → (brackets : Int) → (trim : Trim) → List Char →
    Option (List Token)
  | 0, _, _, _, _ => none
  | fuel + 1, none, brackets, trim, cs =>
      let cs := if trim = .remove then Text.trimStart cs else cs
      match untilMark cs with
      | (text, none) => some (dataToken text)
      | (text, some (mark, rest)) => do
          let (before, body) := Trim.read rest
          let lead := dataToken (if before = .remove then Text.trimEnd text else text)
          if mark = '#' then
            let (behind, after) ← afterComment body
            return lead ++ (← tokens fuel none brackets behind after)
          else if mark = '%' then
            match plainTag? "raw" body with
            | some (start, held) =>
                let (text, stop, behind, after) ← rawSection held
                let text := if start = .remove then Text.trimStart text else text
                let text := if stop = .remove then Text.trimEnd text else text
                return lead ++ .data (String.ofList text) :: (← tokens fuel none brackets behind after)
            | none => return lead ++ .opening .order :: (← tokens fuel (some .order) brackets .usual body)
          else return lead ++ .opening .print :: (← tokens fuel (some .print) brackets .usual body)
  | fuel + 1, some kind, brackets, _, cs =>
      match cs.dropWhile isGap with
      | [] => some []
      | c :: rest =>
          let ended := if brackets = 0 then kind.ended? (c :: rest) else none
          match ended with
          | some (trim, after) => (tokens fuel none brackets trim after).map (.closing kind :: ·)
          | none => do
              let (token, after) ← word? (c :: rest)
              let change := match token with
                | .symbol _ => bracketChange c
                | _ => 0
              return token :: (← tokens fuel (some kind) (brackets + change) .usual after)

def dropLast (last : Char) (source : List Char) : List Char :=
  if source.getLast? = some last then source.dropLast else source

def withoutLastBreak (source : List Char) : List Char := dropLast '\r' (dropLast '\n' source)

def tokensOf (source : String) : Option (List Token) :=
  let source := withoutLastBreak source.toList
  tokens (source.length + 2) none 0 .usual source

end Signpost.Template
