/-! Numbers written with a given number of places.

A magnitude is a quotient of natural numbers. It is rounded exactly, and a tie goes to the even digit.
The three styles are: so many places behind the point, one digit before the point and an exponent, and
whichever of the two is shorter. -/

namespace Signpost.Fixed

/-- The natural number nearest to a quotient, ties to the even one. -/
def nearest (top bottom : Nat) : Nat :=
  let whole := top / bottom
  let twice := 2 * (top % bottom)
  if twice < bottom then whole
  else if bottom < twice then whole + 1
  else whole + whole % 2

def pointed (digits : String) (places : Nat) (keepPoint : Bool) : String :=
  let padded := String.ofList (List.replicate (places + 1 - digits.length) '0') ++ digits
  let whole := padded.length - places
  if places = 0 then if keepPoint then padded ++ "." else padded
  else (padded.take whole).toString ++ "." ++ (padded.drop whole).toString

def fixed (top bottom places : Nat) (keepPoint : Bool) : String :=
  pointed (toString (nearest (top * Nat.pow 10 places) bottom)) places keepPoint

def scaled (top bottom : Nat) (power : Int) : Nat × Nat :=
  if 0 ≤ power then (top * Nat.pow 10 power.toNat, bottom)
  else (top, bottom * Nat.pow 10 (-power).toNat)

def leadingPower (top bottom : Nat) : Int :=
  let guess : Int := ((toString top).length : Int) - (toString bottom).length
  let (t, b) := scaled top bottom (-guess)
  if b ≤ t then guess else guess - 1

/-- The first digits of a quotient, rounded, and the power of ten of the first one. -/
def significant (top bottom count : Nat) : String × Int :=
  if top = 0 then (String.ofList (List.replicate count '0'), 0)
  else
    let power := leadingPower top bottom
    let (t, b) := scaled top bottom (count - 1 - power)
    let digits := toString (nearest t b)
    if digits.length = count then (digits, power) else ((digits.take count).toString, power + 1)

def exponent (power : Int) : String :=
  let digits := toString power.natAbs
  "e" ++ (if power < 0 then "-" else "+") ++ (if digits.length < 2 then "0" else "") ++ digits

def scientific (top bottom places : Nat) (keepPoint : Bool) : String :=
  let (digits, power) := significant top bottom (places + 1)
  pointed digits places keepPoint ++ exponent power

def withoutZeros (text : String) : String :=
  if text.contains '.' then
    let kept := (text.toList.reverse.dropWhile (· = '0')).dropWhile (· = '.')
    String.ofList kept.reverse
  else text

/-- So many significant digits, with an exponent where the number is very large or small. -/
def general (top bottom precision : Nat) (keepPoint : Bool) : String :=
  let precision := max 1 precision
  let (digits, power) := significant top bottom precision
  let trim (text : String) : String := if keepPoint then text else withoutZeros text
  if power < -4 || (precision : Int) ≤ power then
    trim (pointed digits (precision - 1) keepPoint) ++ exponent power
  else trim (fixed top bottom ((precision - 1 - power).toNat) keepPoint)

end Signpost.Fixed
