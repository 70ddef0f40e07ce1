import Signpost.Value.Basic

/-! What a settings document holds.

Whole numbers have up to 128 bits here. A record of the program holds fewer, so not every document
has a value. -/

namespace Signpost.Toml

inductive Real where
  | finite (value : Double)
  | infinite
  | undefined
deriving DecidableEq, Repr, Inhabited

inductive Datum where
  | text (text : String)
  | whole (value : Int)
  | real (value : Real)
  | truth (value : Bool)
  /-- A date, a time or both, in normal form. -/
  | moment (text : String)
  | list (items : List Datum)
  | record (fields : List (String × Datum))
deriving Repr, Inhabited

def leastWhole : Int := -(Nat.pow 2 127 : Nat)

def wholeEnd : Int := (Nat.pow 2 128 : Nat)

def dateField : String := "$__toml_private_datetime"

namespace Datum

mutual
/-- The value of a datum: numbers without a place count as null, and dates are records of one
text. A whole number outside the exact range has no value. -/
def toValue? : Datum → Option Value
  | .text written => some (.str written)
  | .whole value =>
      if Number.least ≤ value ∧ value ≤ Number.greatest then some (.int value) else none
  | .real (.finite value) => some (.num (.real value))
  | .real _ => some .null
  | .truth value => some (.bool value)
  | .moment written => some (.obj [(dateField, .str written)])
  | .list items => (valuesOf? items).map .arr
  | .record fields => (fieldsOf? fields).map .obj

def valuesOf? : List Datum → Option (List Value)
  | [] => some []
  | item :: items => do
      let value ← item.toValue?
      let values ← valuesOf? items
      return value :: values

def fieldsOf? : List (String × Datum) → Option (List (String × Value))
  | [] => some []
  | (name, item) :: fields => do
      let value ← item.toValue?
      let values ← fieldsOf? fields
      return (name, value) :: values
end

def isEmpty : Datum → Bool
  | .list [] | .record [] => true
  | _ => false

/-- One of several alternatives: its name, or a record of its name alone that carries nothing. -/
def choice? : Datum → Option String
  | .text name => some name
  | .record [(name, content)] => if content.isEmpty then some name else none
  | _ => none

def text? : Datum → Option String
  | .text written => some written
  | _ => none

def texts? : Datum → Option (List String)
  | .list items => items.mapM text?
  | _ => none

def natural? (bits : Nat) : Datum → Option Nat
  | .whole value => if 0 ≤ value ∧ value < (Nat.pow 2 bits : Nat) then some value.toNat else none
  | _ => none

end Datum

end Signpost.Toml
