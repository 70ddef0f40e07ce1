import Signpost.Text.Utf8

/-! How programs show names and arguments.

In sentences a name stands between curly quotes, with escapes for what cannot be printed. In front of a
complaint about a file, and for the shell, it is quoted only where the shell would read it as something
else. -/

namespace Signpost.Program

def letterEscape? : Char → Option Char
  | '\x07' => some 'a'
  | '\x08' => some 'b'
  | '\x0c' => some 'f'
  | '\n' => some 'n'
  | '\r' => some 'r'
  | '\t' => some 't'
  | '\x0b' => some 'v'
  | _ => none

def octalDigits (n : Nat) : List Char :=
  [n / 64 % 8, n / 8 % 8, n % 8].map fun digit => Char.ofNat ('0'.toNat + digit)

/-- Characters of raw text that are shown together: a well-formed character with the number of its
bytes, or a single byte that is none. -/
inductive Shown where
  | char (c : Char) (bytes : List Char)
  | byte (b : Char)
deriving DecidableEq, Repr, Inhabited

def isPrintable (c : Char) : Bool :=
  if c.toNat < 0x80 then ' ' ≤ c && c ≤ '~'
  else 0xa0 ≤ c.toNat && c.toNat != 0x2028 && c.toNat != 0x2029 && c.toNat < 0xe000 ||
    0xf900 ≤ c.toNat && c.toNat != 0xfffe && c.toNat != 0xffff && c.toNat < 0xe0000

def shownParts : (fuel : Nat) → List Char → List Shown
  | 0, _ => []
  | _, [] => []
  | fuel + 1, b :: rest =>
      let bytes := Text.bytesOf (String.ofList (b :: rest.take 3))
      match bytes with
      | [] => []
      | first :: others =>
          match Text.next first others with
          | (some c, after) =>
              let count := bytes.length - after.length
              .char c ((b :: rest).take count) :: shownParts fuel ((b :: rest).drop count)
          | (none, _) => .byte b :: shownParts fuel rest

def sentenceEscape : Shown → List Char
  | .char c bytes =>
      match letterEscape? c with
      | some letter => ['\\', letter]
      | none =>
          if c = '\\' then ['\\', '\\']
          else if c = '\u2019' then '\\' :: bytes
          else if isPrintable c then bytes
          else bytes.flatMap fun b => '\\' :: octalDigits b.toNat
  | .byte b => '\\' :: octalDigits b.toNat

def quoted (raw : String) : String :=
  Text.toRaw "\u2018" ++
    String.ofList ((shownParts raw.length raw.toList).flatMap sentenceEscape) ++ Text.toRaw "\u2019"

def isHarmless (c : Char) : Bool :=
  c.isAlphanum || c == '%' || c == '+' || c == ',' || c == '-' || c == '.' || c == '/' || c == ':' ||
    c == ']' || c == '_'

/-- Whether a character needs quotes in the shell; `first` and `alone` tell where it stands. -/
def needsQuotes (first alone : Bool) : Shown → Bool
  | .byte _ => true
  | .char c _ =>
      if !isPrintable c then true
      else if 0x80 ≤ c.toNat || isHarmless c then false
      else if c = '\x7b' || c = '\x7d' then alone
      else if c = '#' || c = '~' then first
      else c != '@'

def isMild (first alone : Bool) : Shown → Bool
  | .byte _ => false
  | .char c _ =>
      if 0x80 ≤ c.toNat then isPrintable c
      else isHarmless c || c == ' ' || c == '\'' || (first && (c == '#' || c == '~')) ||
        (first && alone && (c == '\x7b' || c == '\x7d'))

/-- Bytes between single quotes; those that cannot be printed are escaped between quotes of their
own, which are open if `escaping`. -/
def singleQuoted (escaping : Bool) : List Shown → List Char
  | [] => []
  | shown :: rest =>
      let escape (text : List Char) : List Char :=
        (if escaping then [] else ['\'', '$', '\'']) ++ text ++ singleQuoted true rest
      let plain (text : List Char) : List Char :=
        (if escaping then ['\'', '\''] else []) ++ text ++ singleQuoted false rest
      match shown with
      | .byte b => escape ('\\' :: octalDigits b.toNat)
      | .char c bytes =>
          match letterEscape? c with
          | some letter => escape ['\\', letter]
          | none =>
              if c = '\'' then ['\'', '\\', '\'', '\''] ++ singleQuoted false rest
              else if isPrintable c then plain bytes
              else escape (bytes.flatMap fun b => '\\' :: octalDigits b.toNat)

def shellQuoted (colons : Bool) (raw : String) : String :=
  let parts := shownParts raw.length raw.toList
  let alone := parts.length = 1
  let colon : Shown → Bool
    | .char ':' _ => colons
    | _ => false
  let needs := match parts with
    | [] => true
    | first :: rest =>
        needsQuotes true alone first || rest.any (needsQuotes false alone) || parts.any colon
  if !needs then raw
  else
    let mild := match parts with
      | [] => true
      | first :: rest => isMild true alone first && rest.all (isMild false alone)
    if parts.contains (.char '\'' ['\'']) && mild then "\"" ++ raw ++ "\""
    else "'" ++ String.ofList (singleQuoted false parts) ++ "'"

def fileName (raw : String) : String := shellQuoted true raw

end Signpost.Program
