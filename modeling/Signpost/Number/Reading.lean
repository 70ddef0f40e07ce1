import Signpost.Number.Basic

/-! Numbers as they are written in documents.

Integers between `Number.least` and `Number.greatest` are exact. Any other number is a double: its
leading digits, as many as fit in 64 bits, are scaled by a power of ten. A number too large for a
double is refused. -/

namespace Signpost

namespace Double

def powerOfTen (e : Nat) : Double := (ofDecimal? false 1 e).getD (zero false)

def times? (x y : Double) : Option Double :=
  let (a, b) := x.ratio
  let (c, d) := y.ratio
  ofRatio? false (a * c) (b * d)

def over? (x y : Double) : Option Double :=
  let (a, b) := x.ratio
  let (c, d) := y.ratio
  ofRatio? false (a * d) (b * c)

/-- Scales a magnitude by a power of ten in steps of at most `1e308`. Four steps suffice, since a
64-bit magnitude divided three times by `1e308` is zero. -/
def scale? (x : Double) (e : Int) : Nat → Option Double
  | 0 => some (zero false)
  | steps + 1 =>
      if e.natAbs ≤ 308 then
        if e < 0 then x.over? (powerOfTen e.natAbs) else x.times? (powerOfTen e.natAbs)
      else if x.isZero then some x
      else if 0 ≤ e then none
      else (x.over? (powerOfTen 308)).bind fun y => scale? y (e + 308) steps

def negate (x : Double) : Double := ⟨x.bits ^^^ 0x8000000000000000⟩

def written? (negative : Bool) (significand : Nat) (e : Int) : Option Double := do
  let start ← ofDecimal? false significand 0
  let magnitude ← start.scale? e 4
  return if negative then magnitude.negate else magnitude

end Double

namespace Number

def digit? (c : Char) : Option Nat := if c.isDigit then some (c.toNat - '0'.toNat) else none

structure Gathered where
  significand : Nat
  dropped : Nat
  rest : List Char

/-- Integer digits: once one does not fit in 64 bits, it and all later ones are dropped. -/
def wholeDigits (significand dropped : Nat) : List Char → Gathered
  | [] => ⟨significand, dropped, []⟩
  | c :: rest =>
      match digit? c with
      | none => ⟨significand, dropped, c :: rest⟩
      | some d =>
          if dropped = 0 ∧ significand * 10 + d < Nat.pow 2 64 then
            wholeDigits (significand * 10 + d) 0 rest
          else wholeDigits significand (dropped + 1) rest

/-- Fraction digits: `kept` counts those that fit, and after the first that does not fit the
others are passed over. -/
def fractionDigits (significand kept : Nat) : List Char → Nat × Nat × List Char
  | [] => (significand, kept, [])
  | c :: rest =>
      match digit? c with
      | none => (significand, kept, c :: rest)
      | some d =>
          if significand * 10 + d < Nat.pow 2 64 then
            fractionDigits (significand * 10 + d) (kept + 1) rest
          else (significand, kept, rest.dropWhile Char.isDigit)

def run (value : Nat) : List Char → Nat × List Char
  | [] => (value, [])
  | c :: rest =>
      match digit? c with
      | none => (value, c :: rest)
      | some d => run (value * 10 + d) rest

/-- An optional exponent, at least one digit long when its letter is present. -/
def exponent? (text : List Char) : Option (Option Int × List Char) :=
  match text with
  | letter :: rest =>
      if letter = 'e' ∨ letter = 'E' then
        let (negative, rest) := match rest with
          | '+' :: rest => (false, rest)
          | '-' :: rest => (true, rest)
          | rest => (false, rest)
        match rest with
        | [] => none
        | c :: _ =>
            if c.isDigit then
              let (value, rest) := run 0 rest
              some (some (if negative then -(value : Int) else value), rest)
            else none
      else some (none, text)
  | [] => some (none, [])

def finish? (negative : Bool) (whole : Gathered) : Option (Number × List Char) :=
  match whole.rest with
  | '.' :: rest =>
      match rest with
      | [] => none
      | c :: _ =>
          if c.isDigit then
            let (significand, kept, rest) := fractionDigits whole.significand 0 rest
            (exponent? rest).bind fun (e, rest) =>
              (Double.written? negative significand
                ((whole.dropped : Int) - kept + e.getD 0)).map fun x => (real x, rest)
          else none
  | rest =>
      (exponent? rest).bind fun (e, rest) =>
        match e with
        | none =>
            if whole.dropped = 0 then
              if negative then
                if whole.significand = 0 then some (real (Double.zero true), rest)
                else if whole.significand ≤ Nat.pow 2 63 then
                  some (int (-(whole.significand : Int)), rest)
                else (Double.written? true whole.significand 0).map fun x => (real x, rest)
              else some (int whole.significand, rest)
            else
              (Double.written? negative whole.significand whole.dropped).map fun x =>
                (real x, rest)
        | some e =>
            (Double.written? negative whole.significand (whole.dropped + e)).map fun x =>
              (real x, rest)

def magnitude? (negative : Bool) : List Char → Option (Number × List Char)
  | [] => none
  | '0' :: rest =>
      match rest with
      | c :: _ => if c.isDigit then none else finish? negative ⟨0, 0, rest⟩
      | [] => finish? negative ⟨0, 0, []⟩
  | c :: rest => if c.isDigit then finish? negative (wholeDigits 0 0 (c :: rest)) else none

def read? : List Char → Option (Number × List Char)
  | '-' :: rest => magnitude? true rest
  | text => magnitude? false text

end Number

end Signpost
