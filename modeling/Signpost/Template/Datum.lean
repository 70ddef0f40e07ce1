import Signpost.Number.Arithmetic

/-! The values that templates compute with.

A variable that nobody has set is undefined: it prints nothing and counts as false. Lists are written
out or computed; a computed one, a stream, may not know its length. Maps keep their keys in order.
An object is known by its place in the tables of a rendering, and its datum carries what was last
seen of it, so that the operations on data need no tables. -/

namespace Signpost.Template

inductive Fault where
  | unreadable
  | undefined
  | operation
  | argument
  | unknownFilter (name : String)
  | unknownTest (name : String)
  | unknownFunction (name : String)
  | missingTemplate
  | tooDeep
deriving DecidableEq, Repr, Inhabited

inductive Reference where
  | space (place : Nat)
  | loop (place : Nat)
  | routine (place : Nat)
  | function (name : String)
deriving DecidableEq, Repr, Inhabited

inductive Datum where
  | undefined
  | null
  | bool (value : Bool)
  | int (value : Int)
  | real (value : Double)
  /-- Text; safe text is never escaped. -/
  | text (value : String) (safe : Bool)
  /-- A list, whose items may have names. -/
  | list (items : List Datum) (names : List String)
  | stream (items : List Datum) (sized : Bool)
  | map (entries : List (Datum × Datum))
  /-- The named arguments of a call. -/
  | options (entries : List (Datum × Datum))
  /-- An object, with the text that it is printed with if it is not printed as a map. -/
  | object (reference : Reference) (shown : Option String) (entries : List (Datum × Datum))
deriving Inhabited, Repr

abbrev Bindings := List (String × Datum)

namespace Bindings

def put (bindings : Bindings) (name : String) (value : Datum) : Bindings :=
  match bindings with
  | [] => [(name, value)]
  | (other, old) :: rest =>
      if other = name then (name, value) :: rest else (other, old) :: put rest name value

def entries (bindings : Bindings) : List (Datum × Datum) :=
  bindings.map fun (name, value) => (.text name false, value)

end Bindings

namespace Datum

def ofText (value : String) : Datum := .text value false

def ofChars (value : List Char) : Datum := .text (String.ofList value) false

def ofChar (c : Char) : Datum := .text (String.singleton c) false

def ofItems (items : List Datum) : Datum := .list items []

def nat (n : Nat) : Datum := .int n

def isUndefined : Datum → Bool
  | .undefined => true
  | _ => false

def isAbsent : Datum → Bool
  | .undefined | .null => true
  | _ => false

def isNumber : Datum → Bool
  | .int _ | .real _ => true
  | _ => false

def text? : Datum → Option String
  | .text value _ => some value
  | _ => none

def isSafe : Datum → Bool
  | .text _ safe => safe
  | _ => false

def entries? : Datum → Option (List (Datum × Datum))
  | .map entries | .options entries => some entries
  | .object (.function _) _ _ => none
  | .object _ _ entries => some entries
  | _ => none

def isMap (value : Datum) : Bool := value.entries?.isSome

def elements? : Datum → Option (List Datum)
  | .list items _ | .stream items _ => some items
  | _ => none

/-- What a loop goes through: items, characters, or the keys of a map. Undefined and none are empty. -/
def items? (value : Datum) : Option (List Datum) :=
  match value with
  | .undefined | .null => some []
  | .text value _ => some (value.toList.map ofChar)
  | .list items _ | .stream items _ => some items
  | .bool _ | .int _ | .real _ => none
  | other => other.entries?.map fun entries => entries.map (·.1)

def size? : Datum → Option Nat
  | .text value _ => some value.length
  | .list items _ | .stream items true => some items.length
  | .undefined | .null | .bool _ | .int _ | .real _ | .stream _ false => none
  | other => other.entries?.map List.length

/-- Whether a datum counts as true. What is empty or zero does not. -/
def holds : Datum → Bool
  | .undefined | .null => false
  | .bool value => value
  | .int n => n != 0
  | .real x => !x.isZero
  | .text value _ => !value.isEmpty
  | .list items _ | .stream items true => !items.isEmpty
  | .stream _ false => true
  | other => match other.entries? with
    | some entries => !entries.isEmpty
    | none => true

/-- The integer that a number stands for, if it has no fraction. Truth values are zero and one. -/
def integer? : Datum → Option Int
  | .bool value => some value.toNat
  | .int n => some n
  | .real x =>
      let n := x.clamped (-9223372036854775808) 9223372036854775807
      if (Double.ofInt n).equals x then some n else none
  | _ => none

def integerWithin? (least greatest : Int) (value : Datum) : Option Int :=
  value.integer?.filter fun n => least ≤ n && n ≤ greatest

def count? (value : Datum) : Option Nat :=
  (value.integerWithin? 0 18446744073709551615).map Int.toNat

def double? : Datum → Option Double
  | .bool value => some (Double.ofInt value.toNat)
  | .int n => some (Double.ofInt n)
  | .real x => some x
  | _ => none

end Datum

/-! Order and equality of data.

The order compares kinds first and then values, so that data of any kinds can be sorted. Equality
takes numbers and truth values by their value. -/

/-- Numbers that the machine can calculate with lie below this bound. -/
def integerBound : Int := 170141183460469231731687303715884105728

def Datum.calculable? : Datum → Option Int
  | .bool value => some value.toNat
  | .int n => if n < integerBound then some n else none
  | _ => none

def Datum.exactDouble? : Datum → Option Double
  | .real x => some x
  | .bool value => some (Double.ofInt value.toNat)
  | .int n =>
      let x := Double.ofInt n
      if x.truncated? = some n then some x else none
  | _ => none

namespace Datum

def rank : Datum → Nat
  | .undefined => 0
  | .null => 1
  | .bool _ => 2
  | .int _ | .real _ => 3
  | .text _ _ => 4
  | .list _ _ => 5
  | .map _ | .options _ => 6
  | .stream _ _ => 7
  | .object (.function _) _ _ => 8
  | .object _ _ _ => 6

def sortKey (value : Datum) : Int := (value.double?.map Double.sortKey).getD 0

mutual
def order : Datum → Datum → Ordering
  | .bool a, .bool b => compare a.toNat b.toNat
  | .int a, .int b => compare a b
  | .text a _, .text b _ => compare a b
  | .list xs _, .list ys _ | .stream xs _, .stream ys _ => orderItems xs ys
  | .list _ _, .stream _ _ => .lt
  | .stream _ _, .list _ _ => .gt
  | .map xs, b | .options xs, b | .object _ _ xs, b =>
      match b with
      | .map ys | .options ys | .object _ _ ys => orderEntries xs ys
      | b => compare 6 b.rank
  | a, b => (compare a.rank b.rank).then (compare a.sortKey b.sortKey)

def orderItems : List Datum → List Datum → Ordering
  | [], [] => .eq
  | [], _ :: _ => .lt
  | _ :: _, [] => .gt
  | x :: xs, y :: ys => (order x y).then (orderItems xs ys)

def orderEntries : List (Datum × Datum) → List (Datum × Datum) → Ordering
  | [], [] => .eq
  | [], _ :: _ => .lt
  | _ :: _, [] => .gt
  | (k, v) :: xs, (l, w) :: ys => ((order k l).then (order v w)).then (orderEntries xs ys)
end

def find? (entries : List (Datum × Datum)) (key : Datum) : Option Datum :=
  (entries.find? fun entry => entry.1.order key == .eq).map (·.2)

/-- Puts an entry at its place in the order. An equal key stays as it is and takes the new datum. -/
def insert (entries : List (Datum × Datum)) (key value : Datum) : List (Datum × Datum) :=
  match entries with
  | [] => [(key, value)]
  | (other, old) :: rest =>
      match key.order other with
      | .lt => (key, value) :: (other, old) :: rest
      | .eq => (other, value) :: rest
      | .gt => (other, old) :: insert rest key value

def ofEntries (entries : List (Datum × Datum)) : List (Datum × Datum) :=
  entries.foldl (fun sorted (key, value) => insert sorted key value) []

mutual
def equals : Datum → Datum → Bool
  | .undefined, .undefined | .null, .null => true
  | .text a _, .text b _ => a == b
  | .list xs _, b | .stream xs _, b =>
      match b with
      | .list ys _ | .stream ys _ => equalItems xs ys
      | _ => false
  | .object reference shown xs, b =>
      match b with
      | .object other _ ys => reference == other || (shown.isNone && equalEntries xs ys)
      | .map ys | .options ys => xs.length == ys.length && equalEntries xs ys
      | _ => false
  | .map xs, b | .options xs, b =>
      match b.entries? with
      | some ys => xs.length == ys.length && equalEntries xs ys
      | none => false
  | a, b =>
      match a, b with
      | .real _, _ | _, .real _ =>
          match a.exactDouble?, b.exactDouble? with
          | some x, some y => x.equals y
          | _, _ => false
      | _, _ =>
          match a.calculable?, b.calculable? with
          | some m, some n => m == n
          | _, _ => false

def equalItems : List Datum → List Datum → Bool
  | [], [] => true
  | x :: xs, y :: ys => equals x y && equalItems xs ys
  | _, _ => false

def equalEntries : List (Datum × Datum) → List (Datum × Datum) → Bool
  | [], _ => true
  | (key, value) :: xs, ys =>
      match find? ys key with
      | some other => equals value other && equalEntries xs ys
      | none => false
end

end Datum

end Signpost.Template
