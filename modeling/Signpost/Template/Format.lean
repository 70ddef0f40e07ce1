import Signpost.Number.Fixed
import Signpost.Template.Argument

/-! Texts with places for data.

A place is a percent sign, flags, a width, a precision and a letter that says how a datum is written.
Width and precision may be arguments themselves, and a place may name an entry of a map. -/

namespace Signpost.Template

structure Slot where
  name : Option String
  left : Bool
  plus : Bool
  blank : Bool
  zero : Bool
  alternate : Bool
deriving Repr, Inhabited

namespace Slot

def flags (slot : Slot) : List Char → Slot × List Char
  | '-' :: rest => flags { slot with left := true } rest
  | '+' :: rest => flags { slot with plus := true } rest
  | ' ' :: rest => flags { slot with blank := true } rest
  | '0' :: rest => flags { slot with zero := true } rest
  | '#' :: rest => flags { slot with alternate := true } rest
  | rest => (slot, rest)

def padded (slot : Slot) (width : Nat) (text : String) : String :=
  let fill := String.ofList (List.replicate (width - text.length) ' ')
  if slot.left then text ++ fill else fill ++ text

def number (slot : Slot) (width : Nat) (negative : Bool) (lead digits : String) : String :=
  let sign := (if negative then "-" else if slot.plus then "+" else if slot.blank then " " else "") ++
    lead
  if slot.zero && !slot.left then
    sign ++ String.ofList (List.replicate (width - sign.length - digits.length) '0') ++ digits
  else slot.padded width (sign ++ digits)

def integer (slot : Slot) (width : Nat) (precision : Option Nat) (base : Nat) (lead : String)
    (upper : Bool) (n : Int) : String :=
  let digits := String.ofList (Nat.toDigits base n.natAbs)
  let digits := if upper then digits.toUpper else digits
  let digits :=
    String.ofList (List.replicate (precision.getD 0 - digits.length) '0') ++ digits
  slot.number width (n < 0) (if slot.alternate then lead else "") digits

def real (slot : Slot) (width precision : Nat) (letter : Char) (x : Double) : String :=
  let upper := letter.isUpper
  let cased (text : String) : String := if upper then text.toUpper else text
  if x.isNaN then { slot with zero := false }.number width false "" (cased "nan")
  else if !x.isFinite then { slot with zero := false }.number width x.negative "" (cased "inf")
  else
    let (top, bottom) := x.ratio
    let digits := match letter.toLower with
      | 'e' => Fixed.scientific top bottom precision slot.alternate
      | 'f' => Fixed.fixed top bottom precision slot.alternate
      | _ => Fixed.general top bottom precision slot.alternate
    slot.number width x.negative "" (cased digits)

end Slot

def Datum.cutOff? : Datum → Option Int
  | .bool value => some value.toNat
  | .int n => some n
  | .real x => x.truncated?
  | _ => none

def written (slot : Slot) (width : Nat) (precision : Option Nat) (letter : Char) (value : Datum) :
    Except Fault String :=
  let text (whole : String) : Except Fault String :=
    .ok (slot.padded width (match precision with
      | some count => (whole.take count).toString
      | none => whole))
  let integer (number? : Option Int) (base : Nat) (lead : String) (upper : Bool) :
      Except Fault String :=
    match number? with
    | some n => .ok (slot.integer width precision base lead upper n)
    | none => .error .argument
  match letter with
  | 's' => text value.printed
  | 'r' | 'a' => text value.inner
  | 'd' | 'i' | 'u' => integer value.cutOff? 10 "" false
  | 'x' => integer value.integer? 16 "0x" false
  | 'X' => integer value.integer? 16 "0X" true
  | 'o' => integer value.integer? 8 "0o" false
  | 'c' =>
      match value with
      | .int n => if 0 ≤ n && n < 1114112 then text (String.singleton (Char.ofNat n.toNat))
          else .error .argument
      | .text held _ => if held.length = 1 then text held else .error .argument
      | _ => .error .argument
  | 'e' | 'E' | 'f' | 'F' | 'g' | 'G' =>
      match value.double? with
      | some x => .ok (slot.real width (precision.getD 6) letter x)
      | none => .error .argument
  | _ => .error .argument

def slotCount (arguments : List Datum) : List Char →
    Except Fault (Option Int × List Datum × List Char)
  | '*' :: rest =>
      match arguments with
      | [] => .error .argument
      | first :: others =>
          match first.integerWithin? (-1000000) 1000000 with
          | some n => .ok (some n, others, rest)
          | none => .error .argument
  | rest =>
      let (digits, rest) := Double.spanDigits rest
      if digits.isEmpty then .ok (none, arguments, rest)
      else if 1000000 < Text.decimal digits then .error .argument
      else .ok (some (Text.decimal digits), arguments, rest)

def slotPrecision (arguments : List Datum) : List Char →
    Except Fault (Option Nat × List Datum × List Char)
  | '.' :: rest => do
      let (count, arguments, rest) ← slotCount arguments rest
      return (some ((count.getD 0).toNat), arguments, rest)
  | rest => .ok (none, arguments, rest)

def slotName : List Char → Except Fault (Option String × List Char)
  | '(' :: rest =>
      match Text.cutFirst ')' rest with
      | some (name, rest) => .ok (some (String.ofList name), rest)
      | none => .error .argument
  | rest => .ok (none, rest)

def formatted (named : List (Datum × Datum)) : (fuel : Nat) → (arguments : List Datum) →
    List Char → Except Fault (List String)
  | 0, _, _ => .error .argument
  | _ + 1, arguments, [] => if arguments.isEmpty then .ok [] else .error .argument
  | fuel + 1, arguments, '%' :: rest => do
      let (name, rest) ← slotName rest
      let (slot, rest) := Slot.flags { (default : Slot) with name := name } rest
      let (width, arguments, rest) ← slotCount arguments rest
      let slot := if (width.getD 0) < 0 then { slot with left := true } else slot
      let width := (width.getD 0).natAbs
      let (precision, arguments, rest) ← slotPrecision arguments rest
      match rest with
      | [] => .error .argument
      | '%' :: rest => return "%" :: (← formatted named fuel arguments rest)
      | letter :: rest =>
          let (value, arguments) ← match slot.name, arguments with
            | some name, arguments => match Datum.find? named (.ofText name) with
              | some value => .ok (value, arguments)
              | none => .error .argument
            | none, first :: others => .ok (first, others)
            | none, [] => .error .argument
          let text ← written slot width precision letter value
          return text :: (← formatted named fuel arguments rest)
  | fuel + 1, arguments, c :: rest => do
      return String.singleton c :: (← formatted named fuel arguments rest)

/-- Fills the places of a text with arguments. A single map serves names. -/
def format (text : String) (arguments : List Datum) : Except Fault String := do
  let (plain, options) := Options.split arguments
  let (named, plain) := match plain with
    | [only] =>
        if options.entries.isEmpty && Text.occurs ['%', '('] text.toList then
          match only.entries? with
          | some entries => (entries, [])
          | none => (options.entries, plain)
        else (options.entries, plain)
    | plain => (options.entries, plain)
  return String.join (← formatted named (text.length + 1) plain text.toList)

end Signpost.Template
