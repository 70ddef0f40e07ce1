import Signpost.Number.Reading
import Signpost.Toml.Datum
import Signpost.Value.Reader

/-! Keys and single values of TOML documents.

Every reader returns what it has read and the text that follows, or nothing when the text is
malformed. -/

namespace Signpost.Toml

def isSpace (c : Char) : Bool := c == ' ' || c == '\t'

def skipSpace (text : List Char) : List Char := text.dropWhile isSpace

def isPlain (c : Char) : Bool := c == '\t' || (' ' ≤ c && c != '\x7f')

def lineBreak? : List Char → Option (List Char)
  | '\n' :: rest => some rest
  | '\r' :: '\n' :: rest => some rest
  | _ => none

def skipComment : List Char → Option (List Char)
  | '#' :: rest => some (rest.dropWhile isPlain)
  | text => some text

def skipLines : (fuel : Nat) → List Char → Option (List Char)
  | 0, _ => none
  | fuel + 1, text =>
      match skipSpace text with
      | '#' :: rest => skipLines fuel (rest.dropWhile isPlain)
      | text =>
          match lineBreak? text with
          | some rest => skipLines fuel rest
          | none => some text

def codePoint? (digits : List Char) : Option Char := do
  let values ← digits.mapM Value.hexValue?
  let point := values.foldl (fun n d => n * 16 + d) 0
  if point < 0xd800 || (0xe000 ≤ point && point < 0x110000) then some (Char.ofNat point) else none

def coded? (count : Nat) (text : List Char) : Option (Char × List Char) :=
  if text.length < count then none
  else (codePoint? (text.take count)).map fun c => (c, text.drop count)

def escape? : List Char → Option (Char × List Char)
  | 'b' :: rest => some ('\x08', rest)
  | 't' :: rest => some ('\t', rest)
  | 'n' :: rest => some ('\n', rest)
  | 'f' :: rest => some ('\x0c', rest)
  | 'r' :: rest => some ('\r', rest)
  | 'e' :: rest => some ('\x1b', rest)
  | '"' :: rest => some ('"', rest)
  | '\\' :: rest => some ('\\', rest)
  | 'x' :: rest => coded? 2 rest
  | 'u' :: rest => coded? 4 rest
  | 'U' :: rest => coded? 8 rest
  | _ => none

def basicText : (fuel : Nat) → List Char → Option (List Char × List Char)
  | 0, _ => none
  | _, [] => none
  | _ + 1, '"' :: rest => some ([], rest)
  | fuel + 1, '\\' :: rest => do
      let (c, rest) ← escape? rest
      let (cs, rest) ← basicText fuel rest
      return (c :: cs, rest)
  | fuel + 1, c :: rest => do
      guard (isPlain c)
      let (cs, rest) ← basicText fuel rest
      return (c :: cs, rest)

def closing? (quote : Char) (text : List Char) : Option (List Char × List Char) :=
  let quotes := text.takeWhile (· == quote)
  if 3 ≤ quotes.length && quotes.length ≤ 5 then
    some (List.replicate (quotes.length - 3) quote, text.drop quotes.length)
  else none

/-- Text over several lines; a backslash at the end of a line joins it with the next visible
text. -/
def longText : (fuel : Nat) → List Char → Option (List Char × List Char)
  | 0, _ => none
  | fuel + 1, text =>
      match closing? '"' text with
      | some result => some result
      | none =>
          match text with
          | [] => none
          | '\\' :: rest =>
              match lineBreak? (skipSpace rest) with
              | some after =>
                  longText fuel (after.dropWhile fun c => isSpace c || c == '\n' || c == '\r')
              | none => do
                  let (c, rest) ← escape? rest
                  let (cs, rest) ← longText fuel rest
                  return (c :: cs, rest)
          | '\r' :: '\n' :: rest => do
              let (cs, rest) ← longText fuel rest
              return ('\n' :: cs, rest)
          | c :: rest => do
              guard (isPlain c || c == '\n')
              let (cs, rest) ← longText fuel rest
              return (c :: cs, rest)

def longLiteral : (fuel : Nat) → List Char → Option (List Char × List Char)
  | 0, _ => none
  | fuel + 1, text =>
      match closing? '\'' text with
      | some result => some result
      | none =>
          match text with
          | [] => none
          | '\r' :: '\n' :: rest => do
              let (cs, rest) ← longLiteral fuel rest
              return ('\n' :: cs, rest)
          | c :: rest => do
              guard (isPlain c || c == '\n')
              let (cs, rest) ← longLiteral fuel rest
              return (c :: cs, rest)

/-- A line break right after opening quotes does not count. -/
def withoutFirstBreak (text : List Char) : List Char := (lineBreak? text).getD text

def text? (text : List Char) : Option (String × List Char) :=
  let done : Option (List Char × List Char) → Option (String × List Char) :=
    Option.map fun (cs, rest) => (String.ofList cs, rest)
  match text with
  | '"' :: '"' :: '"' :: rest => done (longText (rest.length + 1) (withoutFirstBreak rest))
  | '\'' :: '\'' :: '\'' :: rest => done (longLiteral (rest.length + 1) (withoutFirstBreak rest))
  | '"' :: rest => done (basicText (rest.length + 1) rest)
  | '\'' :: rest =>
      let inside := rest.takeWhile fun c => c != '\'' && isPlain c
      match rest.drop inside.length with
      | '\'' :: after => some (String.ofList inside, after)
      | _ => none
  | _ => none

def isBare (c : Char) : Bool := c.isAlphanum || c == '_' || c == '-'

def simpleKey? (text : List Char) : Option (String × List Char) :=
  match text with
  | '"' :: '"' :: '"' :: _ | '\'' :: '\'' :: '\'' :: _ => none
  | '"' :: _ | '\'' :: _ => text? text
  | text =>
      let bare := text.takeWhile isBare
      if bare.isEmpty then none else some (String.ofList bare, text.drop bare.length)

def key? : (fuel : Nat) → List Char → Option (List String × List Char)
  | 0, _ => none
  | fuel + 1, text => do
      let (part, rest) ← simpleKey? (skipSpace text)
      match skipSpace rest with
      | '.' :: rest =>
          let (parts, rest) ← key? fuel rest
          return (part :: parts, rest)
      | rest => return ([part], rest)

def plainDigits? (isDigit : Char → Bool) : List Char → Option (List Char)
  | [] => none
  | [c] => if isDigit c then some [c] else none
  | c :: '_' :: rest =>
      if isDigit c then (plainDigits? isDigit rest).map (c :: ·) else none
  | c :: rest => if isDigit c then (plainDigits? isDigit rest).map (c :: ·) else none

def numeral (base : Nat) (digits : List Char) : Nat :=
  digits.foldl (fun n c => n * base + (Value.hexValue? c).getD 0) 0

def stored? (value : Int) : Option Datum :=
  if leastWhole ≤ value ∧ value < wholeEnd then some (.whole value) else none

def wholeDigits? (text : List Char) : Option (List Char) := do
  let digits ← plainDigits? Char.isDigit text
  match digits with
  | '0' :: _ :: _ => none
  | digits => some digits

def real? (negative : Bool) (word : List Char) : Option Datum := do
  let lowered := word.map Char.toLower
  let (mantissa, e) ← match Text.cutFirst 'e' lowered with
    | none => some (lowered, (0 : Int))
    | some (mantissa, power) => do
        let (below, power) := match power with
          | '-' :: rest => (true, rest)
          | '+' :: rest => (false, rest)
          | rest => (false, rest)
        let digits ← plainDigits? Char.isDigit power
        let size : Int := numeral 10 digits
        some (mantissa, if below then -size else size)
  let (whole, fraction) ← match Text.cutFirst '.' mantissa with
    | none => some (mantissa, [])
    | some (whole, fraction) => (plainDigits? Char.isDigit fraction).map fun f => (whole, f)
  let whole ← wholeDigits? whole
  let x ← Double.ofDecimal? negative (numeral 10 (whole ++ fraction)) (e - fraction.length)
  return .real (.finite x)

def number? (word : List Char) : Option Datum :=
  let (signed, negative, word) := match word with
    | '-' :: rest => (true, true, rest)
    | '+' :: rest => (true, false, rest)
    | rest => (false, false, rest)
  let based (base : Nat) (isDigit : Char → Bool) (rest : List Char) : Option Datum :=
    if signed then none else (plainDigits? isDigit rest).bind fun digits => stored? (numeral base digits)
  match word with
  | ['i', 'n', 'f'] => some (.real .infinite)
  | ['n', 'a', 'n'] => some (.real .undefined)
  | '0' :: 'x' :: rest => based 16 (fun c => (Value.hexValue? c).isSome) rest
  | '0' :: 'o' :: rest => based 8 (fun c => '0' ≤ c && c ≤ '7') rest
  | '0' :: 'b' :: rest => based 2 (fun c => c == '0' || c == '1') rest
  | word =>
      match wholeDigits? word with
      | some digits =>
          let value : Int := numeral 10 digits
          stored? (if negative then -value else value)
      | none => real? negative word

def digitsAre (pattern word : List Char) : Bool :=
  pattern.length == word.length &&
    (pattern.zip word).all fun (p, c) => if p == '0' then c.isDigit else p == c

/-- The seconds of a time of day, which may be missing, with a fraction of up to nine digits: their
normal form and what follows. -/
def seconds? (word : List Char) : Option (List Char × List Char) :=
  match word with
  | ':' :: rest =>
      let whole := rest.takeWhile Char.isDigit
      if whole.length = 2 && numeral 10 whole ≤ 60 then
        match rest.drop 2 with
        | '.' :: rest =>
            let fraction := rest.takeWhile Char.isDigit
            let kept := ((fraction.take 9).reverse.dropWhile (· == '0')).reverse
            if fraction.isEmpty then none
            else some (whole ++ (if kept.isEmpty then [] else '.' :: kept),
              rest.drop fraction.length)
        | rest => some (whole, rest)
      else none
  | rest => some (['0', '0'], rest)

def isClock (word : List Char) : Bool :=
  digitsAre "00:00".toList word && numeral 10 (word.take 2) < 24 && numeral 10 (word.drop 3) < 60

def time? (word : List Char) : Option (List Char × List Char) :=
  if isClock (word.take 5) then
    (seconds? (word.drop 5)).map fun (seconds, rest) => (word.take 5 ++ ':' :: seconds, rest)
  else none

def daysOf (year month : Nat) : Nat :=
  if month = 2 then
    if year % 4 = 0 && (year % 100 != 0 || year % 400 = 0) then 29 else 28
  else if month = 4 || month = 6 || month = 9 || month = 11 then 30
  else 31

def isDate (word : List Char) : Bool :=
  digitsAre "0000-00-00".toList word &&
    (let month := numeral 10 ((word.drop 5).take 2)
    let day := numeral 10 (word.drop 8)
    1 ≤ month && month ≤ 12 && 1 ≤ day && day ≤ daysOf (numeral 10 (word.take 4)) month)

/-- The distance from universal time in its normal form; none for no distance is written with a
plus. -/
def zone? : List Char → Option (List Char)
  | [] => some []
  | ['Z'] | ['z'] => some ['Z']
  | '+' :: clock => if isClock clock then some ('+' :: clock) else none
  | '-' :: clock =>
      if isClock clock then some ((if clock == "00:00".toList then '+' else '-') :: clock) else none
  | _ => none

def moment? (word : List Char) : Option (List Char) :=
  if isDate (word.take 10) then
    match word.drop 10 with
    | [] => some word
    | c :: rest =>
        if c = 'T' || c = 't' || c = ' ' then do
          let (clock, zone) ← time? rest
          let zone ← zone? zone
          return word.take 10 ++ 'T' :: clock ++ zone
        else none
  else match time? word with
    | some (clock, []) => some clock
    | _ => none

def isWord (c : Char) : Bool :=
  c.isAlphanum || c == '_' || c == '-' || c == '+' || c == '.' || c == ':'

/-- A value that is written as one word. A date may be followed by a blank and a time. -/
def word? (text : List Char) : Option (Datum × List Char) :=
  let word := text.takeWhile isWord
  let rest := text.drop word.length
  let (word, rest) := match rest with
    | ' ' :: after =>
        let clock := after.takeWhile isWord
        if digitsAre "0000-00-00".toList word && (time? clock).isSome then
          (word ++ ' ' :: clock, after.drop clock.length)
        else (word, rest)
    | rest => (word, rest)
  let datum : Option Datum := match String.ofList word with
    | "true" => some (.truth true)
    | "false" => some (.truth false)
    | _ =>
        match number? word with
        | some number => some number
        | none => (moment? word).map fun moment => .moment (String.ofList moment)
  datum.map fun datum => (datum, rest)

end Signpost.Toml
