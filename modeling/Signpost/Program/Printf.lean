import Signpost.Program.Numeral
import Signpost.Program.Paths
import Signpost.Program.Quoting

/-! Conversions: how an argument is printed by flags, width and precision.

Numbers are put together from a sign or prefix, zeros and digits. Blanks fill a conversion up to its
width in front, or behind if it is aligned to the left; zeros stand behind the sign. -/

namespace Signpost.Program

structure Conversion where
  flags : List Char := []
  width : Nat := 0
  precision : Option Nat := none
  letter : Char
deriving DecidableEq, Repr, Inhabited

namespace Conversion

def has (c : Conversion) (flag : Char) : Bool := c.flags.contains flag

def fill (c : Conversion) (text : List Char) : List Char :=
  let blanks := List.replicate (c.width - text.length) ' '
  if c.has '-' then text ++ blanks else blanks ++ text

def fillNumber (c : Conversion) (zeros : Bool) (sign digits : List Char) : List Char :=
  if zeros && c.has '0' && !c.has '-' then
    sign ++ List.replicate (c.width - sign.length - digits.length) '0' ++ digits
  else c.fill (sign ++ digits)

def sign (c : Conversion) (negative : Bool) : List Char :=
  if negative then ['-'] else if c.has '+' then ['+'] else if c.has ' ' then [' '] else []

def text (c : Conversion) (raw : List Char) : List Char :=
  c.fill ((c.precision.map fun most => raw.take most).getD raw)

def longestText : Nat := Nat.pow 2 31 - 1

def isTooLong (c : Conversion) : Bool :=
  let precision := c.precision.getD 0
  longestText ≤ c.width || longestText < precision || (precision == longestText && c.letter != 's')

def digits (c : Conversion) (base n : Nat) : List Char :=
  let written := if n = 0 && c.precision = some 0 then [] else Nat.toDigits base n
  List.replicate (c.precision.getD 1 - written.length) '0' ++ written

/-- A whole number. Letters for unsigned numbers take one that is not negative. -/
def integer (c : Conversion) (n : Int) : List Char :=
  let zeros := c.precision.isNone
  match c.letter with
  | 'o' =>
      let digits := c.digits 8 n.natAbs
      let prefixed := c.has '#' && digits.head? != some '0'
      c.fillNumber zeros [] (if prefixed then '0' :: digits else digits)
  | 'x' => c.fillNumber zeros (if c.has '#' && n != 0 then ['0', 'x'] else []) (c.digits 16 n.natAbs)
  | 'X' =>
      c.fillNumber zeros (if c.has '#' && n != 0 then ['0', 'X'] else [])
        ((c.digits 16 n.natAbs).map Char.toUpper)
  | 'u' => c.fillNumber zeros [] (c.digits 10 n.natAbs)
  | _ => c.fillNumber zeros (c.sign (n < 0)) (c.digits 10 n.natAbs)

/-- The hexadecimal digits of a number with a power of two, in a format whose first digit holds
`lead` bits. -/
def hexadecimal (c : Conversion) (p : Precision) (lead top bottom : Nat) : List Char :=
  let behind := (p.bits - lead) / 4
  let (significand, power) : Nat × Int :=
    if top = 0 then (0, -(p.bits - lead : Nat))
    else
      let power := p.power top bottom
      let (t, b) := shifted top bottom (-power)
      (t / b, power)
  let places := c.precision.getD behind
  let significand :=
    if places < behind then Fixed.nearest significand (Nat.pow 16 (behind - places)) else significand
  let kept := min places behind
  let whole := significand / Nat.pow 16 kept
  let fraction := Nat.toDigits 16 (significand % Nat.pow 16 kept)
  let padded := List.replicate (kept - fraction.length) '0' ++ fraction
  let written :=
    if kept = 0 then []
    else if c.precision.isNone then (padded.reverse.dropWhile (· = '0')).reverse
    else padded ++ List.replicate (places - kept) '0'
  let exponent := power + (p.bits - lead : Nat)
  Nat.toDigits 16 whole ++
    (if written.isEmpty then if c.has '#' then ['.'] else [] else '.' :: written) ++
    ['p', if exponent < 0 then '-' else '+'] ++ Nat.toDigits 10 exponent.natAbs

/-- A number of a format by the style of the letter. `lead` is as for hexadecimal digits. -/
def real (c : Conversion) (p : Precision) (lead : Nat) (x : Real) : List Char :=
  let upper (text : List Char) : List Char :=
    if c.letter.isUpper then text.map Char.toUpper else text
  match x with
  | .infinite negative => upper (c.fill (c.sign negative ++ ['i', 'n', 'f']))
  | .nan negative => upper (c.fill (c.sign negative ++ ['n', 'a', 'n']))
  | .finite negative top bottom =>
      let places := c.precision.getD 6
      let keepPoint := c.has '#'
      match c.letter.toLower with
      | 'a' =>
          upper (c.fillNumber true (c.sign negative ++ ['0', 'x']) (c.hexadecimal p lead top bottom))
      | 'e' => upper (c.fillNumber true (c.sign negative)
          (Fixed.scientific top bottom places keepPoint).toList)
      | 'g' => upper (c.fillNumber true (c.sign negative)
          (Fixed.general top bottom places keepPoint).toList)
      | _ => c.fillNumber true (c.sign negative) (Fixed.fixed top bottom places keepPoint).toList

end Conversion

/-! The program `printf`: prints arguments by a format.

A format is printed again until all arguments are used; an argument that is missing counts as empty
text or as zero. What is printed is gathered and written at the end, behind all complaints. -/

abbrev Action := (name : String) → (arguments : List String) → State → Exit × State

/-- Ends a program that has written its output at the end; it fails if the output cannot be
written. -/
def finish (name output : String) (code : Nat) (s : State) : Exit × State :=
  match s.write 1 output with
  | (none, s) => (.code code, s)
  | (some e, s) => (.code 1, s.complain (name ++ ": write error: " ++ e.message ++ "\n"))

def tryHelp (name : String) : String := "Try '" ++ name ++ " --help' for more information.\n"

namespace Printf

/-- A printing under way. Output is kept from its end. -/
structure Progress where
  output : List Char := []
  complaints : List String := []
  arguments : List String
  /-- Whether an argument was used by the format. -/
  used : Bool := false
  failed : Bool := false
  /-- Whether a conversion was too long to be printed. -/
  overflown : Bool := false

inductive Stop where
  /-- An escape that ends all output. -/
  | cut (progress : Progress)
  | fatal (progress : Progress) (complaint : String)

abbrev Result := Except Stop Progress

namespace Progress

def put (p : Progress) (text : List Char) : Progress := { p with output := text.reverse ++ p.output }

def complain (p : Progress) (text : String) : Progress :=
  { p with complaints := text :: p.complaints }

def take (p : Progress) : Option String × Progress :=
  match p.arguments with
  | [] => (none, p)
  | word :: rest => (some word, { p with arguments := rest, used := true })

def checked (p : Progress) (word : String) (rest : List Char) (found outside : Bool) : Progress :=
  if outside then { p.complain (quoted word ++ ": Numerical result out of range") with failed := true }
  else if !found then
    if word.isEmpty then p
    else { p.complain (quoted word ++ ": expected a numeric value") with failed := true }
  else if !rest.isEmpty then
    { p.complain (quoted word ++ ": value not completely converted") with failed := true }
  else p

def quotedChar? (word : String) : Option (Nat × List Char) :=
  match word.toList with
  | q :: first :: rest =>
      if q != '"' && q != '\'' then none
      else match shownParts 1 (first :: rest) with
        | [.char c bytes] => some (c.toNat, (first :: rest).drop bytes.length)
        | _ => some (first.toNat, rest)
  | _ => none

def value {α : Type} (p : Progress) (word : String) (ofChar : Nat → α)
    (read : List Char → Numeral α × Bool) : α × Progress :=
  match quotedChar? word with
  | some (n, []) => (ofChar n, p)
  | some (n, rest) =>
      (ofChar n, p.complain ("warning: " ++ String.ofList rest ++
        ": character(s) following character constant have been ignored"))
  | none =>
      let (numeral, outside) := read word.toList
      (numeral.value, p.checked word numeral.rest numeral.found outside)

def signed (p : Progress) (word : String) : Int × Progress :=
  p.value word (fun n => (n : Int)) fun text =>
    let numeral := readInteger text
    let (n, outside) := toSigned numeral.value
    ({ numeral with value := n }, outside)

def unsigned (p : Progress) (word : String) : Int × Progress :=
  p.value word (fun n => (n : Int)) fun text =>
    let numeral := readInteger text
    let (n, outside) := toUnsigned numeral.value
    ({ numeral with value := n }, outside)

def real (p : Progress) (word : String) : Real × Progress :=
  p.value word (fun n => .finite false n 1) fun text =>
    let numeral := readReal text
    let (x, outside) := extendedPrecision.round numeral.value
    ({ numeral with value := x }, outside)

end Progress

def hexadecimal (digits : List Char) : Nat := valueIn 16 (digits.filterMap (digitIn? 16))

def isHexadecimal (c : Char) : Bool := (digitIn? 16 c).isSome

def isOctal (c : Char) : Bool := (digitIn? 8 c).isSome

def byteChar (n : Nat) : Char := Char.ofNat (n % 256)

def plainEscape? : Char → Option Char
  | '"' => some '"'
  | '\\' => some '\\'
  | 'a' => some '\x07'
  | 'b' => some '\x08'
  | 'e' => some '\x1b'
  | 'f' => some '\x0c'
  | 'n' => some '\n'
  | 'r' => some '\r'
  | 't' => some '\t'
  | 'v' => some '\x0b'
  | _ => none

def padded (n length : Nat) : String :=
  let digits := Nat.toDigits 16 n
  String.ofList (List.replicate (length - digits.length) '0' ++ digits)

/-- The character of a code point that was written with `length` digits after a letter. -/
def universal (p : Progress) (letter : Char) (length : Nat) (digits : List Char) :
    Except Stop (List Char) :=
  let n := hexadecimal digits
  if digits.length < length then .error (.fatal p "missing hexadecimal number in escape")
  else if 0xd800 ≤ n && n ≤ 0xdfff then
    .error (.fatal p ("invalid universal character name \\" ++ String.singleton letter ++
      padded n length))
  else if 0x10ffff < n then
    .ok ("\\U".toList ++ ((padded n 8).toList.map Char.toUpper))
  else .ok (Text.toRaw (String.singleton (Char.ofNat n))).toList

/-- What an escape after its backslash stands for, and what follows it. With `zero` an octal number may
have another zero in front. -/
def escape (p : Progress) (zero : Bool) : List Char → Except Stop (List Char × List Char)
  | [] => .ok (['\\'], [])
  | 'c' :: _ => .error (.cut p)
  | 'x' :: rest =>
      let digits := (rest.take 2).takeWhile isHexadecimal
      if digits.isEmpty then .error (.fatal p "missing hexadecimal number in escape")
      else .ok ([byteChar (hexadecimal digits)], rest.drop digits.length)
  | c :: rest =>
      if isOctal c then
        let body := if zero && c = '0' then rest else c :: rest
        let digits := (body.take 3).takeWhile isOctal
        .ok ([byteChar (valueIn 8 (digits.filterMap (digitIn? 8)))], body.drop digits.length)
      else if c = 'u' || c = 'U' then
        let length := if c = 'u' then 4 else 8
        let digits := (rest.take length).takeWhile isHexadecimal
        (universal p c length digits).map fun text => (text, rest.drop length)
      else match plainEscape? c with
        | some plain => .ok ([plain], rest)
        | none => .ok (['\\', c], rest)

def escaped : (fuel : Nat) → Progress → List Char → Result
  | 0, p, _ => .ok p
  | _, p, [] => .ok p
  | fuel + 1, p, '\\' :: rest => do
      let (text, rest) ← escape p true rest
      escaped fuel (p.put text) rest
  | fuel + 1, p, c :: rest => escaped fuel (p.put [c]) rest

def isFlag (c : Char) : Bool :=
  c == '-' || c == '+' || c == ' ' || c == '#' || c == '0' || c == '\'' || c == 'I'

def allows (flags : List Char) (letter : Char) : Bool :=
  let refused (flag : Char) (letters : String) : Bool := flags.contains flag && letters.contains letter
  "aAcdeEfFgGiosuxX".contains letter && !refused '\'' "aAceEosxX" && !refused 'I' "aAceEosxX" &&
    !refused '#' "cdisu" && !refused '0' "cs"

def starred (p : Progress) : Option (String × Int) × Progress :=
  match p.take with
  | (none, p) => (none, p)
  | (some word, p) =>
      let (n, p) := p.signed word
      (some (word, n), p)

def greatestWidth : Int := 2147483647

def convert (p : Progress) (c : Conversion) : Progress :=
  let (word, p) := p.take
  let word := word.getD ""
  let print (p : Progress) (text : Unit → List Char) : Progress :=
    if c.isTooLong then { p with overflown := true } else p.put (text ())
  match c.letter with
  | 's' => print p fun () => c.text word.toList
  | 'c' => print p fun () => c.fill [word.toList.headD '\x00']
  | 'd' | 'i' =>
      let (n, p) := p.signed word
      print p fun () => c.integer n
  | 'o' | 'u' | 'x' | 'X' =>
      let (n, p) := p.unsigned word
      print p fun () => c.integer n
  | _ =>
      let (x, p) := p.real word
      print p fun () => c.real extendedPrecision 4 x

def readWidth (p : Progress) (c : Conversion) : List Char → Except Stop (Progress × Conversion × List Char)
  | '*' :: rest =>
      match starred p with
      | (none, p) => .ok (p, c, rest)
      | (some (word, n), p) =>
          if greatestWidth < n || n < -greatestWidth - 1 then
            .error (.fatal p ("invalid field width: " ++ quoted word))
          else
            .ok (p, { c with width := n.natAbs, flags := if n < 0 then '-' :: c.flags else c.flags }, rest)
  | text =>
      let digits := text.takeWhile Char.isDigit
      .ok (p, { c with width := Text.decimal digits }, text.drop digits.length)

def readPrecision (p : Progress) (c : Conversion) :
    List Char → Except Stop (Progress × Conversion × List Char)
  | '.' :: '*' :: rest =>
      match starred p with
      | (none, p) => .ok (p, { c with precision := some 0 }, rest)
      | (some (word, n), p) =>
          if greatestWidth < n then .error (.fatal p ("invalid precision: " ++ quoted word))
          else .ok (p, { c with precision := if n < 0 then none else some n.toNat }, rest)
  | '.' :: text =>
      let digits := text.takeWhile Char.isDigit
      .ok (p, { c with precision := some (Text.decimal digits) }, text.drop digits.length)
  | text => .ok (p, c, text)

def isLength (c : Char) : Bool :=
  c == 'l' || c == 'L' || c == 'h' || c == 'j' || c == 't' || c == 'z'

/-- Prints by the conversion that begins after a percent sign; also returns what follows it. -/
def directive (p : Progress) (text : List Char) : Except Stop (Progress × List Char) := do
  let flags := text.takeWhile isFlag
  let (p, c, rest) ← readWidth p { flags := flags, letter := 's' } (text.drop flags.length)
  let pointed := rest.head? = some '.'
  let (p, c, rest) ← readPrecision p c rest
  let rest := rest.dropWhile isLength
  match rest with
  | letter :: after =>
      if allows flags letter && !(letter = 'c' && pointed) then
        return (convert p { c with letter := letter }, after)
      else
        throw (.fatal p ("%" ++ String.ofList (text.take (text.length - after.length)) ++
          ": invalid conversion specification"))
  | [] => throw (.fatal p ("%" ++ String.ofList text ++ ": invalid conversion specification"))

def once : (fuel : Nat) → Progress → List Char → Result
  | 0, p, _ => .ok p
  | _, p, [] => .ok p
  | fuel + 1, p, '%' :: '%' :: rest => once fuel (p.put ['%']) rest
  | fuel + 1, p, '%' :: 'b' :: rest => do
      match p.take with
      | (some word, p) => once fuel (← escaped (word.length + 1) p word.toList) rest
      | (none, p) => once fuel p rest
  | fuel + 1, p, '%' :: 'q' :: rest =>
      match p.take with
      | (some word, p) => once fuel (p.put (shellQuoted false word).toList) rest
      | (none, p) => once fuel p rest
  | fuel + 1, p, '%' :: rest => do
      let (p, rest) ← directive p rest
      once fuel p rest
  | fuel + 1, p, '\\' :: rest => do
      let (text, rest) ← escape p false rest
      once fuel (p.put text) rest
  | fuel + 1, p, c :: rest => once fuel (p.put [c]) rest

/-- Prints a format as often as it takes to use all arguments. -/
def all (format : List Char) : (fuel : Nat) → Progress → Result
  | 0, p => .ok p
  | fuel + 1, p => do
      let p ← once (format.length + 1) { p with used := false } format
      if p.used && !p.arguments.isEmpty then all format fuel p else return p

end Printf

def printf : Action := fun name arguments s =>
  let arguments := match arguments with
    | "--" :: rest => rest
    | arguments => arguments
  match arguments with
  | [] => (.code 1, (s.complain (name ++ ": missing operand\n")).complain (tryHelp name))
  | format :: words =>
      let ending (p : Printf.Progress) (last : Option String) (code : Nat) : Exit × State :=
        let complaints := p.complaints.reverse ++ last.toList
        let s := complaints.foldl (fun s text => s.complain (name ++ ": " ++ text ++ "\n")) s
        let (exit, s) := finish name (String.ofList p.output.reverse) code s
        if p.overflown then (.code 1, s.complain (name ++ ": write error\n")) else (exit, s)
      match Printf.all format.toList (words.length + 1) { arguments := words } with
      | .error (.cut p) => ending p none 0
      | .error (.fatal p complaint) => ending p (some complaint) 1
      | .ok p =>
          let excess := p.arguments.head?.map fun word =>
            "warning: ignoring excess arguments, starting with " ++ quoted word
          ending p excess (if p.failed then 1 else 0)

end Signpost.Program
