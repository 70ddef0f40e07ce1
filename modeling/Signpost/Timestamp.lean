import Signpost.Text.Basic

/-! Points in time and their written form, `2024-01-02T03:04:05.120Z`.

A time is written in UTC with as many groups of three fraction digits as it needs. When it is read,
any offset is accepted, the separator may be a blank, and blanks may stand around the parts. -/

namespace Signpost

/-- Seconds since 1970 and nanoseconds; a leap second counts a full second of nanoseconds. -/
structure Timestamp where
  seconds : Int
  nanos : Nat
deriving DecidableEq, Repr, Inhabited

namespace Timestamp

def epoch : Timestamp := ⟨0, 0⟩

/-- Days from 1970-01-01 to a date of the Gregorian calendar. Years are counted from March, so that
the leap day is the last of its year. -/
def daysOfDate (year : Int) (month day : Nat) : Int :=
  let y := if month ≤ 2 then year - 1 else year
  let era := Int.fdiv y 400
  let yearOfEra := (y - era * 400).toNat
  let dayOfYear := (153 * (if 2 < month then month - 3 else month + 9) + 2) / 5 + day - 1
  let dayOfEra := yearOfEra * 365 + yearOfEra / 4 - yearOfEra / 100 + dayOfYear
  era * 146097 + dayOfEra - 719468

def dateOfDays (days : Int) : Int × Nat × Nat :=
  let z := days + 719468
  let era := Int.fdiv z 146097
  let dayOfEra := (z - era * 146097).toNat
  let yearOfEra :=
    (dayOfEra - dayOfEra / 1460 + dayOfEra / 36524 - dayOfEra / 146096) / 365
  let dayOfYear := dayOfEra - (365 * yearOfEra + yearOfEra / 4 - yearOfEra / 100)
  let shifted := (5 * dayOfYear + 2) / 153
  let day := dayOfYear - (153 * shifted + 2) / 5 + 1
  let month := if shifted < 10 then shifted + 3 else shifted - 9
  let year : Int := (yearOfEra : Int) + era * 400
  (if month ≤ 2 then year + 1 else year, month, day)

def isLeapYear (year : Int) : Bool :=
  year % 4 == 0 && (year % 100 != 0 || year % 400 == 0)

def daysInMonth (year : Int) (month : Nat) : Nat :=
  if month = 2 then (if isLeapYear year then 29 else 28)
  else if month = 4 || month = 6 || month = 9 || month = 11 then 30 else 31

def padded (width n : Nat) : String :=
  let digits := toString n
  String.ofList (List.replicate (width - digits.length) '0') ++ digits

def yearText (year : Int) : String :=
  if 0 ≤ year && year ≤ 9999 then padded 4 year.natAbs
  else (if year < 0 then "-" else "+") ++ padded 4 year.natAbs

def fractionText (nanos : Nat) : String :=
  if nanos = 0 then ""
  else if nanos % 1000000 = 0 then "." ++ padded 3 (nanos / 1000000)
  else if nanos % 1000 = 0 then "." ++ padded 6 (nanos / 1000)
  else "." ++ padded 9 nanos

def text (t : Timestamp) : String :=
  let days := Int.fdiv t.seconds 86400
  let clock := (t.seconds - days * 86400).toNat
  let (year, month, day) := dateOfDays days
  let leap := t.nanos / 1000000000
  yearText year ++ "-" ++ padded 2 month ++ "-" ++ padded 2 day ++ "T" ++
    padded 2 (clock / 3600) ++ ":" ++ padded 2 (clock / 60 % 60) ++ ":" ++
    padded 2 (clock % 60 + leap) ++ fractionText (t.nanos % 1000000000) ++ "Z"

def number? (most : Nat) (text : List Char) : Option (Nat × List Char) :=
  let text := Text.trimStart text
  let digits := (text.take most).takeWhile Char.isDigit
  if digits.isEmpty then none
  else some (digits.foldl (fun n c => n * 10 + (c.toNat - '0'.toNat)) 0, text.drop digits.length)

def year? (text : List Char) : Option (Int × List Char) :=
  match Text.trimStart text with
  | '-' :: rest => (number? rest.length rest).map fun (n, rest) => (-(n : Int), rest)
  | '+' :: rest => (number? rest.length rest).map fun (n, rest) => ((n : Int), rest)
  | text => (number? 4 text).map fun (n, rest) => ((n : Int), rest)

def mark? (c : Char) (text : List Char) : Option (List Char) :=
  match Text.trimStart text with
  | d :: rest => if c = d then some rest else none
  | [] => none

/-- An optional fraction of a second, in nanoseconds; digits after the ninth are ignored. -/
def fraction? (text : List Char) : Option (Nat × List Char) :=
  match text with
  | '.' :: rest =>
      let digits := rest.takeWhile Char.isDigit
      if digits.isEmpty then none
      else
        let kept := digits.take 9
        let value := kept.foldl (fun n c => n * 10 + (c.toNat - '0'.toNat)) 0
        some (value * Nat.pow 10 (9 - kept.length), rest.drop digits.length)
  | text => some (0, text)

def offset? (text : List Char) : Option (Int × List Char) :=
  match Text.trimStart text with
  | 'Z' :: rest | 'z' :: rest => some (0, rest)
  | sign :: a :: b :: rest =>
      if [sign, a, b].map Char.toLower = ['u', 't', 'c'] then some (0, rest)
      else if sign = '+' || sign = '-' || sign = '\u2212' then
        match rest.dropWhile (fun c => c == ':' || Text.isBlank c) with
        | c :: d :: rest =>
            if [a, b, c, d].all Char.isDigit && c ≤ '5' then
              let two (x y : Char) : Nat := (x.toNat - '0'.toNat) * 10 + (y.toNat - '0'.toNat)
              let size : Int := two a b * 3600 + two c d * 60
              if 86400 ≤ size then none else some (if sign = '+' then size else -size, rest)
            else none
        | _ => none
      else none
  | _ => none

/-- The years of the calendar; a time must lie in them both as written and in UTC. -/
def leastYear : Int := -262143
def greatestYear : Int := 262142

def read? (written : String) : Option Timestamp := do
  let (year, rest) ← year? written.toList
  let rest ← mark? '-' rest
  let (month, rest) ← number? 2 rest
  let rest ← mark? '-' rest
  let (day, rest) ← number? 2 rest
  let rest ← match rest with
    | c :: rest => if c = 'T' || c = 't' || c = ' ' then some rest else none
    | [] => none
  let (hour, rest) ← number? 2 rest
  let rest ← mark? ':' rest
  let (minute, rest) ← number? 2 rest
  let rest ← mark? ':' rest
  let (second, rest) ← number? 2 rest
  let (nanos, rest) ← fraction? rest
  let (offset, rest) ← offset? rest
  guard (Text.trimStart rest).isEmpty
  guard (1 ≤ month && month ≤ 12 && 1 ≤ day && day ≤ daysInMonth year month)
  guard (hour ≤ 23 && minute ≤ 59 && second ≤ 60)
  guard (leastYear ≤ year && year ≤ greatestYear)
  let leap := if second = 60 then 1 else 0
  let clock : Int := hour * 3600 + minute * 60 + (second - leap : Nat)
  let seconds := daysOfDate year month day * 86400 + clock - offset
  guard (daysOfDate leastYear 1 1 * 86400 ≤ seconds)
  guard (seconds < daysOfDate (greatestYear + 1) 1 1 * 86400)
  return ⟨seconds, nanos + leap * 1000000000⟩

end Timestamp

end Signpost
