import Signpost.Template.Arithmetic
import Signpost.Template.Argument
import Signpost.Text.Letter.Case

/-! Tests.

A test says of a datum whether it has a property, some of them in relation to one argument. -/

namespace Signpost.Template

namespace Test

def plain (holds : Datum → Bool) (value : Datum) : Take Bool := return holds value

def relation (operator : Operator) (value : Datum) : Take Bool := do
  let other ← Take.value
  match operator.apply value other with
  | .ok result => return result.holds
  | .error _ => return false

def isInteger : Datum → Bool
  | .int _ => true
  | _ => false

def isReal : Datum → Bool
  | .real _ => true
  | _ => false

def isBool : Datum → Bool
  | .bool _ => true
  | _ => false

def isText (value : Datum) : Bool := value.text?.isSome

def isSequence : Datum → Bool
  | .list _ _ => true
  | _ => false

def isIterable (value : Datum) : Bool := value.items?.isSome

def isNull : Datum → Bool
  | .null => true
  | _ => false

def leaves (remainder : Int) (value : Datum) : Bool :=
  match value.integer? with
  | some n => n % 2 == remainder
  | none => false

def divisible (value : Datum) : Take Bool := do
  let other ← Take.value
  match pair? value other with
  | some (.whole a b) => return b != 0 && a % b == 0
  | some (.real x y) => return (x.remainder y).isZero
  | none => return false

def startsWith (value : Datum) : Take Bool := do
  let start ← Take.printed
  return start.toList.isPrefixOf value.printed.toList

def endsWith (value : Datum) : Take Bool := do
  let stop ← Take.printed
  return stop.toList.isSuffixOf value.printed.toList

def allOf (table : List (Nat × Nat × Nat)) (value : Datum) : Bool :=
  match value.text? with
  | some text => text.toList.all fun c => Text.Letter.runs table c.toNat
  | none => false

/-- Whether two data are equal and of one type. Lists and maps have no identity here. -/
def sameAs (value : Datum) : Take Bool := do
  let other ← Take.value
  return match value, other with
  | .undefined, .undefined | .null, .null => true
  | .bool a, .bool b => a == b
  | .int a, .int b => a == b
  | .real x, .real y => x.equals y
  | .text a _, .text b _ => a == b
  | .object r _ _, .object s _ _ => r == s
  | _, _ => false

def table : List (String × (Datum → Take Bool)) :=
  [("undefined", plain Datum.isUndefined), ("defined", plain fun value => !value.isUndefined),
    ("none", plain isNull), ("safe", plain Datum.isSafe), ("escaped", plain Datum.isSafe),
    ("boolean", plain isBool), ("odd", plain (leaves 1)), ("even", plain (leaves 0)),
    ("divisibleby", divisible), ("number", plain Datum.isNumber), ("integer", plain isInteger),
    ("int", plain isInteger), ("float", plain isReal), ("string", plain isText),
    ("sequence", plain isSequence), ("iterable", plain isIterable),
    ("mapping", plain Datum.isMap), ("startingwith", startsWith), ("endingwith", endsWith),
    ("lower", plain (allOf Text.Letter.lowercase)),
    ("upper", plain (allOf Text.Letter.uppercase)), ("sameas", sameAs),
    ("eq", relation .equal), ("equalto", relation .equal), ("==", relation .equal),
    ("ne", relation .unequal), ("!=", relation .unequal),
    ("lt", relation .less), ("lessthan", relation .less), ("<", relation .less),
    ("le", relation .lessEqual), ("<=", relation .lessEqual),
    ("gt", relation .greater), ("greaterthan", relation .greater), (">", relation .greater),
    ("ge", relation .greaterEqual), (">=", relation .greaterEqual), ("in", relation .isIn),
    ("true", plain fun value => isBool value && value.holds),
    ("false", plain fun value => isBool value && !value.holds)]

end Test

end Signpost.Template
