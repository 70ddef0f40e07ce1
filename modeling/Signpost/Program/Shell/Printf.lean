import Signpost.Program.Shell.Process

/-! The commands `printf` and `echo` of the shell.

They differ from the programs of these names in their escapes, their complaints and the size of their
numbers. -/

namespace Signpost.Program.Shell

namespace Printing

def isOctal (c : Char) : Bool := '0' ≤ c && c ≤ '7'

/-- What an escape after its backslash stands for, and what follows it. An octal number has at most
three digits. -/
def escape : List Char → Char × List Char
  | [] => ('\\', [])
  | c :: rest =>
      let octal := ((c :: rest).take 3).takeWhile isOctal
      if octal.isEmpty then
        match Printf.plainEscape? c with
        | some plain => if c = '"' then ('\\', c :: rest) else (plain, rest)
        | none => ('\\', c :: rest)
      else
        (Printf.byteChar (valueIn 8 (octal.filterMap (digitIn? 8))), (c :: rest).drop octal.length)

/-- A text without its escapes, and whether an escape ends all output. An octal number may have a zero
in front. -/
def unescaped : (fuel : Nat) → (done : List Char) → List Char → List Char × Bool
  | 0, done, _ => (done.reverse, false)
  | _, done, [] => (done.reverse, false)
  | _, done, '\\' :: 'c' :: _ => (done.reverse, true)
  | fuel + 1, done, '\\' :: rest =>
      let body := match rest with
        | '0' :: c :: after => if isOctal c then c :: after else rest
        | rest => rest
      let (c, rest) := escape body
      unescaped fuel (c :: done) rest
  | fuel + 1, done, c :: rest => unescaped fuel (c :: done) rest

def withoutEscapes (text : String) : List Char × Bool :=
  unescaped (text.length + 1) [] text.toList

structure Progress where
  arguments : List String
  used : Bool := false
  failed : Bool := false

abbrev Act := StateT Progress Running

def take : Act (Option String) := do
  let p ← get
  match p.arguments with
  | [] => return none
  | word :: rest =>
      set { p with arguments := rest, used := true }
      return some word

def complain (text : String) : Act Unit := do
  warn text
  modify fun p => { p with failed := true }

def check (word : String) (rest : List Char) (found outside : Bool) : Act Unit := do
  if !rest.isEmpty then
    if found then complain (word ++ ": not completely converted")
    else complain (word ++ ": expected numeric value")
  else if outside then complain (word ++ ": Numerical result out of range")

def quotedByte? (word : String) : Option Nat :=
  match word.toList with
  | q :: rest => if q = '"' || q = '\'' then some ((rest.head?.map Char.toNat).getD 0) else none
  | [] => none

def whole (signed : Bool) : Act Int := do
  match ← take with
  | none => return 0
  | some word =>
      match quotedByte? word with
      | some n => return n
      | none =>
          let numeral := readInteger word.toList
          let (n, outside) := if signed then toSigned numeral.value else toUnsigned numeral.value
          check word numeral.rest numeral.found outside
          return n

def real : Act Real := do
  match ← take with
  | none => return .finite false 0 1
  | some word =>
      match quotedByte? word with
      | some n => return .finite false n 1
      | none =>
          let numeral := readReal word.toList
          let (x, outside) := doublePrecision.round numeral.value
          check word numeral.rest numeral.found outside
          return x

def isFlag (c : Char) : Bool := c == '#' || c == '-' || c == '+' || c == ' ' || c == '0'

def starred : Act Int := do
  let n ← whole true
  return (n + 2147483648) % 4294967296 - 2147483648

def readWidth (c : Conversion) : List Char → Act (Conversion × List Char)
  | '*' :: rest => do
      let n ← starred
      return ({ c with width := n.natAbs, flags := if n < 0 then '-' :: c.flags else c.flags }, rest)
  | text =>
      let digits := text.takeWhile Char.isDigit
      return ({ c with width := Text.decimal digits }, text.drop digits.length)

def readPrecision (c : Conversion) : List Char → Act (Conversion × List Char)
  | '.' :: '*' :: rest => do
      let n ← starred
      return ({ c with precision := if n < 0 then none else some n.toNat }, rest)
  | '.' :: text =>
      let digits := text.takeWhile Char.isDigit
      return ({ c with precision := some (Text.decimal digits) }, text.drop digits.length)
  | text => return (c, text)

/-- Prints an argument by a conversion; tells whether an escape ends all output. -/
def convert (c : Conversion) : Act Bool := do
  let print (text : Unit → List Char) : Act Bool := do
    if c.isTooLong then fail "xvsnprintf failed"
    else
      emit (String.ofList (text ()))
      return false
  match c.letter with
  | 'b' =>
      let (text, cut) := withoutEscapes ((← take).getD "")
      let _ ← print fun () => c.text text
      return cut
  | 's' =>
      let word := (← take).getD ""
      print fun () => c.text word.toList
  | 'c' =>
      let word := (← take).getD ""
      print fun () => c.fill [word.toList.headD '\x00']
  | 'd' | 'i' =>
      let n ← whole true
      print fun () => c.integer n
  | 'o' | 'u' | 'x' | 'X' =>
      let n ← whole false
      print fun () => c.integer n
  | _ =>
      let x ← real
      print fun () => c.real doublePrecision 1 x

def letters : List Char := "aAbcdeEfFgGiosuxX".toList

/-- Prints a format once; tells whether an escape ends all output. -/
def once : (fuel : Nat) → List Char → Act Bool
  | 0, _ => return false
  | _, [] => return false
  | fuel + 1, '\\' :: rest => do
      let (c, rest) := escape rest
      emit (String.singleton c)
      once fuel rest
  | fuel + 1, '%' :: '%' :: rest => do
      emit "%"
      once fuel rest
  | fuel + 1, '%' :: text => do
      let flags := text.takeWhile isFlag
      let (c, rest) ← readWidth { flags := flags, letter := 's' } (text.drop flags.length)
      let (c, rest) ← readPrecision c rest
      match rest with
      | [] => fail "missing format character"
      | letter :: after =>
          if letters.contains letter then
            if ← convert { c with letter := letter } then return true else once fuel after
          else
            fail ("%" ++ String.ofList (text.take (text.length - after.length)) ++ ": invalid directive")
  | fuel + 1, c :: rest => do
      let plain := (c :: rest).takeWhile fun c => c != '\\' && c != '%'
      emit (String.ofList plain)
      once fuel ((c :: rest).drop plain.length)

def all (format : List Char) : (fuel : Nat) → Act Unit
  | 0 => return ()
  | fuel + 1 => do
      let cut ← once (format.length + 1) format
      let p ← get
      if !cut && p.used && !p.arguments.isEmpty then all format fuel

end Printing

def printf (arguments : List String) : Running Nat := do
  match arguments with
  | [] => fail "usage: printf format [arg ...]"
  | format :: words =>
      let ((), p) ← (Printing.all format.toList (words.length + 1)).run { arguments := words }
      return if p.failed then 1 else 0

def echoed : List String → List Char × Bool
  | [] => ([], false)
  | word :: rest =>
      let (text, cut) := Printing.withoutEscapes word
      if cut then (text, true)
      else if rest.isEmpty then (text, false)
      else
        let (more, cut) := echoed rest
        (text ++ ' ' :: more, cut)

def echo (arguments : List String) : Running Nat := do
  let (quiet, words) := match arguments with
    | "-n" :: words => (true, words)
    | words => (false, words)
  let (text, cut) := echoed words
  emit (String.ofList (if quiet || cut then text else text ++ ['\n']))
  return 0

end Signpost.Program.Shell
