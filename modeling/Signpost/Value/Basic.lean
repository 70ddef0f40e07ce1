import Signpost.Number.Basic

/-! The values of a document.

Records keep their fields in the order in which they were written; a field that is written again
keeps its place and takes the new value. -/

namespace Signpost

inductive Value where
  | null
  | bool (value : Bool)
  | num (value : Number)
  | str (text : String)
  | arr (items : List Value)
  | obj (fields : List (String × Value))
deriving Repr, Inhabited

abbrev Fields := List (String × Value)

namespace Fields

def get? (fields : Fields) (name : String) : Option Value := fields.lookup name

def names (fields : Fields) : List String := fields.map (·.1)

def has (fields : Fields) (name : String) : Bool := (fields.get? name).isSome

/-- Gives a field a value: in place when it is there, at the end when it is new. -/
def put : Fields → String → Value → Fields
  | [], name, value => [(name, value)]
  | (other, old) :: rest, name, value =>
      if other = name then (other, value) :: rest else (other, old) :: put rest name value

def ofList (written : List (String × Value)) : Fields :=
  written.foldl (fun fields (name, value) => fields.put name value) []

def text? (fields : Fields) (name : String) : Option String :=
  match fields.get? name with
  | some (.str text) => some text
  | _ => none

def bool? (fields : Fields) (name : String) : Option Bool :=
  match fields.get? name with
  | some (.bool value) => some value
  | _ => none

end Fields

namespace Value

def int (value : Int) : Value := .num (.int value)

def nat (value : Nat) : Value := .num (.int value)

def ofText? : Option String → Value
  | some text => .str text
  | none => .null

def isNull : Value → Bool
  | .null => true
  | _ => false

def isRecord : Value → Bool
  | .obj _ => true
  | _ => false

def text? : Value → Option String
  | .str text => some text
  | _ => none

def bool? : Value → Option Bool
  | .bool value => some value
  | _ => none

def items? : Value → Option (List Value)
  | .arr items => some items
  | _ => none

def record? : Value → Option Fields
  | .obj fields => some fields
  | _ => none

def natural? : Value → Option Nat
  | .num n => n.natural?
  | _ => none

def field? (value : Value) (name : String) : Option Value :=
  match value with
  | .obj fields => Fields.get? fields name
  | _ => none

mutual
/-- Equality of values, where the order of the fields of a record does not count. -/
def same : Value → Value → Bool
  | .null, .null => true
  | .bool a, .bool b => a == b
  | .num a, .num b => a.same b
  | .str a, .str b => a == b
  | .arr xs, .arr ys => sameItems xs ys
  | .obj fs, .obj gs => fs.length == gs.length && sameFields fs gs
  | _, _ => false

def sameItems : List Value → List Value → Bool
  | [], [] => true
  | x :: xs, y :: ys => same x y && sameItems xs ys
  | _, _ => false

def sameFields : List (String × Value) → Fields → Bool
  | [], _ => true
  | (name, x) :: fs, gs =>
      match Fields.get? gs name with
      | some y => same x y && sameFields fs gs
      | none => false
end

mutual
def merged : Value → Value
  | .arr items => .arr (mergedItems items)
  | .obj fields => .obj (Fields.ofList (mergedFields fields))
  | value => value

def mergedItems : List Value → List Value
  | [] => []
  | item :: items => merged item :: mergedItems items

def mergedFields : List (String × Value) → List (String × Value)
  | [] => []
  | (name, value) :: fields => (name, merged value) :: mergedFields fields
end

end Value

namespace Fields

def once (fields : Fields) (names : List String) : Bool :=
  names.all fun name => (Fields.names fields).count name ≤ 1

/-- The fields of a fixed shape: a record in which none of them is repeated, or a list of their
values in order, of which the first `needed` are present. -/
def ofShape? (names : List String) (needed : Nat) : Value → Option Fields
  | .obj fields => if once fields names then some fields else none
  | .arr items =>
      if needed ≤ items.length && items.length ≤ names.length then some (names.zip items) else none
  | _ => none

end Fields

end Signpost
