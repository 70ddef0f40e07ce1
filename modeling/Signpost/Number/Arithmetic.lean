import Signpost.Number.Basic
import Signpost.Text.Basic

/-! Calculation with doubles.

Sums, products, quotients and powers are those of the machine. Remainders, roundings and the passage
to and from integers are exact, and are computed on the ratio of a number. -/

namespace Signpost

namespace Double

def isNaN (x : Double) : Bool := x.exponentField == 2047 && x.fractionField != 0

def nan : Double := ⟨0x7ff8000000000000⟩

def infinite (negative : Bool) : Double :=
  ⟨if negative then 0xfff0000000000000 else 0x7ff0000000000000⟩

def toFloat (x : Double) : Float := Float.ofBits x.bits

def ofFloat (x : Float) : Double := ⟨x.toBits⟩

def combine (operation : Float → Float → Float) (x y : Double) : Double :=
  ofFloat (operation x.toFloat y.toFloat)

/-- Equality of the machine: the two zeros are equal, and a number that is not one equals nothing. -/
def equals (x y : Double) : Bool := !x.isNaN && !y.isNaN && x.same y

def flipped (x : Double) : Double := ⟨x.bits ^^^ 0x8000000000000000⟩

def magnitude (x : Double) : Double := if x.negative then x.flipped else x

def sortKey (x : Double) : Int :=
  let size := x.bits.toNat % Nat.pow 2 63
  if x.negative then -(size : Int) - 1 else size

def ofInt (n : Int) : Double :=
  (ofRatio? (n < 0) n.natAbs 1).getD (infinite (n < 0))

/-- A number without its fraction, as an integer. Only a finite number has one. -/
def truncated? (x : Double) : Option Int :=
  if !x.isFinite then none
  else
    let (top, bottom) := x.ratio
    let size : Int := ((top / bottom : Nat) : Int)
    some (if x.negative then -size else size)

/-- The number without its fraction, cut off at the ends of a range. What is not a number is zero. -/
def clamped (least greatest : Int) (x : Double) : Int :=
  match x.truncated? with
  | some n => max least (min greatest n)
  | none => if x.isNaN then 0 else if x.negative then least else greatest

def withoutFraction (x : Double) : Double :=
  match x.truncated? with
  | some 0 => zero x.negative
  | some n => ofInt n
  | none => x

/-- The nearest whole number; a half goes away from zero. -/
def rounded (x : Double) : Double :=
  if !x.isFinite then x
  else
    let (top, bottom) := x.ratio
    (ofRatio? x.negative ((2 * top + bottom) / (2 * bottom)) 1).getD x

/-- What is left of `x` after taking away `y` as often as it fits; it has the sign of `x`. -/
def remainder (x y : Double) : Double :=
  if !x.isFinite || y.isNaN || y.isZero then nan
  else if !y.isFinite then x
  else
    let (a, b) := x.ratio
    let (c, d) := y.ratio
    (ofRatio? x.negative ((a * d) % (c * b)) (b * d)).getD (zero x.negative)

def wholeQuotient (x y : Double) : Double :=
  let quotient := (combine (· / ·) x y).withoutFraction
  if (x.remainder y).toFloat < 0 then
    if 0 < y.toFloat then combine (· - ·) quotient (ofInt 1) else combine (· + ·) quotient (ofInt 1)
  else quotient

def squarings : (fuel : Nat) → (base result : Float) → (exponent : Nat) → Float
  | 0, _, result, _ => result
  | fuel + 1, base, result, exponent =>
      let result := if exponent % 2 = 1 then result * base else result
      if exponent / 2 = 0 then result else squarings fuel (base * base) result (exponent / 2)

def tenTo (exponent : Int) : Double :=
  let size := squarings 64 10 1 exponent.natAbs
  ofFloat (if exponent < 0 then 1 / size else size)

def spanDigits (cs : List Char) : List Char × List Char :=
  (cs.takeWhile Char.isDigit, cs.dropWhile Char.isDigit)

def integerText? (cs : List Char) : Option Int :=
  let (negative, digits) := match cs with
    | '-' :: rest => (true, rest)
    | '+' :: rest => (false, rest)
    | rest => (false, rest)
  if digits.isEmpty || !digits.all Char.isDigit then none
  else
    let size : Int := Text.decimal digits
    some (if negative then -size else size)

/-- A written magnitude: digits around an optional point, and an optional exponent. -/
def magnitudeText? (negative : Bool) (cs : List Char) : Option Double :=
  let (whole, rest) := spanDigits cs
  let (fraction, rest) := match rest with
    | '.' :: rest => spanDigits rest
    | rest => ([], rest)
  let digits := whole ++ fraction
  if digits.isEmpty then none
  else
    let power? : Option Int := match rest with
      | [] => some 0
      | c :: rest => if c = 'e' || c = 'E' then integerText? rest else none
    power?.map fun power =>
      (ofDecimal? negative (Text.decimal digits) (power - fraction.length)).getD (infinite negative)

/-- A number as text: a sign, then digits or one of the names of the special numbers. -/
def ofText? (text : String) : Option Double :=
  let (negative, rest) := match text.toList with
    | '-' :: rest => (true, rest)
    | '+' :: rest => (false, rest)
    | rest => (false, rest)
  match String.ofList (rest.map Char.toLower) with
  | "inf" | "infinity" => some (infinite negative)
  | "nan" => some nan
  | _ => magnitudeText? negative rest

end Double

end Signpost
