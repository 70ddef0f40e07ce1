import Signpost.Number.Fixed
import Signpost.Text.Basic
import Signpost.Text.Utf8
import Signpost.Value.Reader

/-! Numbers in the arguments of programs.

A numeral is read as far as it goes, and what follows is left to the caller. Integers know octal and
hexadecimal prefixes; reals are read exactly, as a quotient, and are rounded afterwards. -/

namespace Signpost.Program

structure Numeral (α : Type) where
  value : α
  rest : List Char
  found : Bool
deriving Repr

def skipBlanks (cs : List Char) : List Char := cs.dropWhile Text.isRawBlank

def takeSign : List Char → Bool × List Char
  | '-' :: rest => (true, rest)
  | '+' :: rest => (false, rest)
  | rest => (false, rest)

def digitIn? (base : Nat) (c : Char) : Option Nat :=
  (Value.hexValue? c).bind fun n => if n < base then some n else none

def takeDigits (base : Nat) (cs : List Char) : List Nat × List Char :=
  let digits := (cs.takeWhile fun c => (digitIn? base c).isSome)
  (digits.filterMap (digitIn? base), cs.drop digits.length)

def valueIn (base : Nat) (digits : List Nat) : Nat := digits.foldl (fun n d => n * base + d) 0

def readInteger (text : List Char) : Numeral Int :=
  let (negative, body) := takeSign (skipBlanks text)
  let (base, digits) := match body with
    | '0' :: 'x' :: c :: rest | '0' :: 'X' :: c :: rest =>
        if (digitIn? 16 c).isSome then (16, c :: rest) else (8, body)
    | '0' :: _ => (8, body)
    | _ => (10, body)
  let (found, rest) := takeDigits base digits
  if found.isEmpty then ⟨0, text, false⟩
  else
    let size : Int := (valueIn base found : Nat)
    ⟨if negative then -size else size, rest, true⟩

def leastSigned : Int := -9223372036854775808
def greatestSigned : Int := 9223372036854775807
def greatestUnsigned : Int := 18446744073709551615

def toSigned (n : Int) : Int × Bool :=
  if n < leastSigned then (leastSigned, true)
  else if greatestSigned < n then (greatestSigned, true)
  else (n, false)

def toUnsigned (n : Int) : Int × Bool :=
  if greatestUnsigned < n || greatestUnsigned < -n then (greatestUnsigned, true)
  else (n % (greatestUnsigned + 1), false)

def wrapped (n : Int) : Int := (n + (greatestSigned + 1)) % (greatestUnsigned + 1) - (greatestSigned + 1)

inductive Real where
  /-- The magnitude is the quotient of the two numbers. -/
  | finite (negative : Bool) (top bottom : Nat)
  | infinite (negative : Bool)
  | nan (negative : Bool)
deriving DecidableEq, Repr, Inhabited

/-- How far outside the range an exponent must be for its power not to be computed. -/
def farExponent : Int := 25000

def quotient (significand base : Nat) (power : Int) : Nat × Nat :=
  if significand = 0 then (0, 1)
  else
    let power := max (-farExponent - (significand.log2 : Int)) (min farExponent power)
    if 0 ≤ power then (significand * Nat.pow base power.toNat, 1)
    else (significand, Nat.pow base (-power).toNat)

def takeExponent? (letter : Char) : List Char → Option (Int × List Char)
  | c :: rest =>
      if c.toLower = letter then
        let (negative, body) := takeSign rest
        let (digits, rest) := takeDigits 10 body
        if digits.isEmpty then none
        else
          let size : Int := (valueIn 10 digits : Nat)
          some (if negative then -size else size, rest)
      else none
  | [] => none

def takeFraction (base : Nat) (cs : List Char) : List Nat × Nat × List Char :=
  let (whole, rest) := takeDigits base cs
  match rest with
  | '.' :: behind =>
      let (fraction, after) := takeDigits base behind
      if whole.isEmpty && fraction.isEmpty then ([], 0, cs) else (whole ++ fraction, fraction.length, after)
  | rest => (whole, 0, rest)

def dropWord? (word : String) (cs : List Char) : Option (List Char) :=
  if cs.take word.length |>.map Char.toLower |> (· == word.toList) then some (cs.drop word.length) else none

def afterNaN (cs : List Char) : List Char :=
  match cs with
  | '(' :: rest =>
      match rest.dropWhile fun c => c.isAlphanum || c == '_' with
      | ')' :: after => after
      | _ => cs
  | _ => cs

def readReal (text : List Char) : Numeral Real :=
  let (negative, body) := takeSign (skipBlanks text)
  let named : Option (Numeral Real) :=
    match dropWord? "infinity" body, dropWord? "inf" body, dropWord? "nan" body with
    | some rest, _, _ => some ⟨.infinite negative, rest, true⟩
    | _, some rest, _ => some ⟨.infinite negative, rest, true⟩
    | _, _, some rest => some ⟨.nan negative, afterNaN rest, true⟩
    | none, none, none => none
  let hexadecimal : Option (Numeral Real) :=
    match body with
    | '0' :: x :: digits =>
        if x = 'x' || x = 'X' then
          let (found, places, rest) := takeFraction 16 digits
          if found.isEmpty then none
          else
            let (power, rest) := (takeExponent? 'p' rest).getD (0, rest)
            let (top, bottom) := quotient (valueIn 16 found) 2 (power - 4 * places)
            some ⟨.finite negative top bottom, rest, true⟩
        else none
    | _ => none
  match named.orElse fun _ => hexadecimal with
  | some numeral => numeral
  | none =>
      let (found, places, rest) := takeFraction 10 body
      if found.isEmpty then ⟨.finite false 0 1, text, false⟩
      else
        let (power, rest) := (takeExponent? 'e' rest).getD (0, rest)
        let (top, bottom) := quotient (valueIn 10 found) 10 (power - places)
        ⟨.finite negative top bottom, rest, true⟩

/-- A format of binary numbers: the bits of a significand, and the least and greatest power of two of
its last bit. -/
structure Precision where
  bits : Nat
  least : Int
  greatest : Int

def doublePrecision : Precision := ⟨53, -1074, 971⟩
def extendedPrecision : Precision := ⟨64, -16445, 16320⟩

def shifted (top bottom : Nat) (power : Int) : Nat × Nat :=
  if 0 ≤ power then (top * Nat.pow 2 power.toNat, bottom)
  else (top, bottom * Nat.pow 2 (-power).toNat)

def Precision.power (p : Precision) (top bottom : Nat) : Int :=
  let guess : Int := (top.log2 : Int) - (bottom.log2 : Int) - (p.bits - 1)
  let (t, b) := shifted top bottom (-guess)
  max (if t < b * Nat.pow 2 (p.bits - 1) then guess - 1 else guess) p.least

/-- The number of a format nearest to a real one, ties to the even one, and whether the real one is
outside its range. -/
def Precision.round (p : Precision) : Real → Real × Bool
  | .finite negative top bottom =>
      if top = 0 then (.finite negative 0 1, false)
      else
        let power := p.power top bottom
        let (t, b) := shifted top bottom (-power)
        let significand := Fixed.nearest t b
        if p.greatest < power || (power = p.greatest && significand = Nat.pow 2 p.bits) then
          (.infinite negative, true)
        else
          let (rounded, scale) := shifted significand 1 power
          (.finite negative rounded scale, significand < Nat.pow 2 (p.bits - 1) && t % b != 0)
  | real => (real, false)

end Signpost.Program
