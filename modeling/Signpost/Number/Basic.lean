/-! Double precision numbers, kept as their 64 bits.

`ofRatio` rounds an exact quotient to the nearest double, ties to the even one, in arithmetic of
natural numbers. `digits` is the shortest decimal that reads back, and of those the nearest. -/

namespace Signpost

structure Double where
  bits : UInt64
deriving DecidableEq, Repr, Inhabited

namespace Double

def negative (x : Double) : Bool := x.bits.toNat / Nat.pow 2 63 == 1

def exponentField (x : Double) : Nat := x.bits.toNat / Nat.pow 2 52 % Nat.pow 2 11

def fractionField (x : Double) : Nat := x.bits.toNat % Nat.pow 2 52

def isFinite (x : Double) : Bool := x.exponentField != 2047

def significand (x : Double) : Nat :=
  if x.exponentField = 0 then x.fractionField else x.fractionField + Nat.pow 2 52

def exponent (x : Double) : Int :=
  if x.exponentField = 0 then -1074 else (x.exponentField : Int) - 1075

def isZero (x : Double) : Bool := x.significand == 0 && x.exponentField == 0

def zero (negative : Bool) : Double := ⟨if negative then 0x8000000000000000 else 0⟩

/-- `numerator / denominator · 2 ^ (-power)`, rounded to the nearest integer, ties to even. -/
def roundScaled (numerator denominator : Nat) (power : Int) : Nat :=
  let top := if power < 0 then numerator * Nat.pow 2 (-power).toNat else numerator
  let bottom := if power < 0 then denominator else denominator * Nat.pow 2 power.toNat
  let whole := top / bottom
  let twice := 2 * (top % bottom)
  if twice < bottom then whole
  else if bottom < twice then whole + 1
  else whole + whole % 2

def scaleOf (numerator denominator : Nat) : Int :=
  let guess : Int := (numerator.log2 : Int) - (denominator.log2 : Int) - 52
  let reached :=
    if guess < 0 then denominator * Nat.pow 2 52 ≤ numerator * Nat.pow 2 (-guess).toNat
    else denominator * Nat.pow 2 guess.toNat * Nat.pow 2 52 ≤ numerator
  if reached then guess else guess - 1

/-- Packs a significand up to `2 ^ 53` and its power of two; no result above the finite range. -/
def pack? (negative : Bool) (significand : Nat) (power : Int) : Option Double :=
  let (significand, power) :=
    if significand = Nat.pow 2 53 then (Nat.pow 2 52, power + 1) else (significand, power)
  let sign := if negative then Nat.pow 2 63 else 0
  if significand < Nat.pow 2 52 then some ⟨UInt64.ofNat (sign + significand)⟩
  else
    let field := (power + 1075).toNat
    if field < 2047 then
      some ⟨UInt64.ofNat (sign + field * Nat.pow 2 52 + (significand - Nat.pow 2 52))⟩
    else none

def ofRatio? (negative : Bool) (numerator denominator : Nat) : Option Double :=
  if numerator = 0 then some (zero negative)
  else
    let power := max (scaleOf numerator denominator) (-1074)
    pack? negative (roundScaled numerator denominator power) power

def ratio (x : Double) : Nat × Nat :=
  if x.exponent < 0 then (x.significand, Nat.pow 2 (-x.exponent).toNat)
  else (x.significand * Nat.pow 2 x.exponent.toNat, 1)

/-- The double nearest to `m · 10 ^ e`, or none when it is out of range. Exponents far outside the
range are answered without computing the power. -/
def ofDecimal? (negative : Bool) (m : Nat) (e : Int) : Option Double :=
  if m = 0 then some (zero negative)
  else
    let size : Int := (m.log2 : Int) / 3 + 1 + e
    if size < -400 then some (zero negative)
    else if e > 400 then none
    else if e < 0 then ofRatio? negative m (Nat.pow 10 (-e).toNat)
    else ofRatio? negative (m * Nat.pow 10 e.toNat) 1

/-- Equality as numbers: the two zeros are equal. -/
def same (x y : Double) : Bool := x == y || (x.isZero && y.isZero)

/-- Decimal digits of a positive number and the power of ten of the last one. -/
structure Digits where
  value : Nat
  power : Int
deriving DecidableEq, Repr

/-- The interval that rounds to `x`, in quarters of its last binary place: lower end, the number
itself, upper end. -/
def interval (x : Double) : Nat × Nat × Nat :=
  let m := x.significand
  let low := if m = Nat.pow 2 52 && 1 < x.exponentField then 4 * m - 1 else 4 * m - 2
  (low, 4 * m, 4 * m + 2)

/-- The point of the grid of `10 ^ power` nearest to `x` that reads back as `x`, if one does. -/
def onGrid? (x : Double) (power : Int) : Option Nat :=
  let (low, mid, high) := x.interval
  let binary := x.exponent - 2
  let scale := (if binary < 0 then 1 else Nat.pow 2 binary.toNat) *
    (if power < 0 then Nat.pow 10 (-power).toNat else 1)
  let unit := (if power < 0 then 1 else Nat.pow 10 power.toNat) *
    (if binary < 0 then Nat.pow 2 (-binary).toNat else 1)
  let (low, mid, high) := (low * scale, mid * scale, high * scale)
  let closed := x.significand % 2 == 0
  let fits (n : Nat) : Bool :=
    let at_ := n * unit
    if closed then low ≤ at_ && at_ ≤ high else low < at_ && at_ < high
  let below := mid / unit
  let above := below + 1
  let toBelow := mid - below * unit
  let toAbove := above * unit - mid
  match fits below, fits above with
  | true, true =>
      some (if toBelow < toAbove || (toBelow == toAbove && below % 2 == 0) then below else above)
  | true, false => some below
  | false, true => some above
  | false, false => none

/-- Tries finer grids until one has a point that reads back. -/
def searchGrid (x : Double) (power : Int) : Nat → Digits
  | 0 => ⟨x.significand, 0⟩
  | steps + 1 =>
      match x.onGrid? power with
      | some 0 | none => searchGrid x (power - 1) steps
      | some value => ⟨value, power⟩

/-- The shortest decimal that reads back as the positive number `x`. -/
def digits (x : Double) : Digits :=
  let magnitude : Int := ((x.significand.log2 : Int) + x.exponent) * 30103 / 100000
  searchGrid x (magnitude + 2) 22

end Double

/-! Written numbers.

Doubles are written positionally from `1e-5` up to `1e16` and in exponent form outside, always with
a mark that tells them from integers. -/

namespace Double

def leastPositional : Int := -5
def positionalEnd : Int := 16

def positionalDigits (x : Double) : String :=
  let found := x.digits
  let written := toString found.value
  let leading : Int := found.power + written.length - 1
  if leading < 0 then
    "0." ++ String.ofList (List.replicate (leading.natAbs - 1) '0') ++ written
  else if 0 ≤ found.power then
    written ++ String.ofList (List.replicate found.power.toNat '0') ++ ".0"
  else
    let whole := leading.toNat + 1
    (written.take whole).toString ++ "." ++ (written.drop whole).toString

def leadingDigits (x : Double) : String × Int :=
  let found := x.digits
  let written := toString found.value
  let rest := (written.drop 1).toString
  ((written.take 1).toString ++ (if rest.isEmpty then "" else "." ++ rest),
    found.power + written.length - 1)

/-- A finite number as text: a point or an exponent is always present. -/
def text (x : Double) : String :=
  let sign := if x.negative then "-" else ""
  if x.isZero then sign ++ "0.0"
  else
    let (digits, power) := x.leadingDigits
    if power < leastPositional || positionalEnd ≤ power then
      sign ++ digits ++ "e" ++ (if power < 0 then "-" else "+") ++ toString power.natAbs
    else sign ++ x.positionalDigits

end Double

inductive Number where
  | int (value : Int)
  | real (value : Double)
deriving DecidableEq, Repr, Inhabited

namespace Number

def least : Int := -9223372036854775808
def greatest : Int := 18446744073709551615

def text : Number → String
  | int value => toString value
  | real value => value.text

/-- An integer and a double are never the same number. -/
def same : Number → Number → Bool
  | int a, int b => a == b
  | real a, real b => a.same b
  | _, _ => false

def natural? : Number → Option Nat
  | int value => if value < 0 then none else some value.toNat
  | real _ => none

end Number

end Signpost
