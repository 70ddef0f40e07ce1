import Signpost.Value.Reader

/-! Reading values of which only certain fields matter.

The fields that a shape does not name are passed over: they have to be written as values, yet their
numbers may be of any size, their escapes may stand for any code unit, and they may nest without
limit. -/

namespace Signpost.Value

def passNumber? (text : List Char) : Option (List Char) :=
  let digits? (text : List Char) : Option (List Char) :=
    if (text.head?.any Char.isDigit) then some (text.dropWhile Char.isDigit) else none
  let whole? : List Char → Option (List Char)
    | '0' :: rest => if rest.head?.any Char.isDigit then none else some rest
    | text => digits? text
  let fraction? : List Char → Option (List Char)
    | '.' :: rest => digits? rest
    | text => some text
  let power? : List Char → Option (List Char)
    | 'e' :: '+' :: rest | 'e' :: '-' :: rest | 'E' :: '+' :: rest | 'E' :: '-' :: rest
    | 'e' :: rest | 'E' :: rest => digits? rest
    | text => some text
  let unsigned := match text with
    | '-' :: rest => rest
    | text => text
  (whole? unsigned).bind fun rest => (fraction? rest).bind power?

def passText? : List Char → Option (List Char)
  | [] => none
  | '"' :: rest => some rest
  | '\\' :: 'u' :: a :: b :: c :: d :: rest => if (unit? a b c d).isSome then passText? rest else none
  | '\\' :: c :: rest => if (escape? c).isSome then passText? rest else none
  | c :: rest => if c < ' ' ∨ c = '\\' then none else passText? rest

def passName? (text : List Char) : Option (List Char) :=
  match skipSpace text with
  | '"' :: rest =>
      match (passText? rest).map skipSpace with
      | some (':' :: rest) => some rest
      | _ => none
  | _ => none

def passWord? : List Char → Option (List Char)
  | 'n' :: 'u' :: 'l' :: 'l' :: rest | 't' :: 'r' :: 'u' :: 'e' :: rest
  | 'f' :: 'a' :: 'l' :: 's' :: 'e' :: rest => some rest
  | '"' :: rest => passText? rest
  | text => passNumber? text

/-- Passes over a value. `closers` are the brackets that are still open, the innermost first, and
`complete` tells that a value has just ended; `limit` bounds the number of steps. -/
def passFrom? : (limit : Nat) → (complete : Bool) → (closers : List Char) → List Char →
    Option (List Char)
  | 0, _, _, _ => none
  | _ + 1, true, [], text => some text
  | limit + 1, true, closer :: closers, text =>
      match skipSpace text with
      | ',' :: rest =>
          if closer = '}' then (passName? rest).bind (passFrom? limit false (closer :: closers))
          else passFrom? limit false (closer :: closers) rest
      | c :: rest => if c = closer then passFrom? limit true closers rest else none
      | [] => none
  | limit + 1, false, closers, text =>
      match skipSpace text with
      | '[' :: rest =>
          match skipSpace rest with
          | ']' :: rest => passFrom? limit true closers rest
          | rest => passFrom? limit false (']' :: closers) rest
      | '{' :: rest =>
          match skipSpace rest with
          | '}' :: rest => passFrom? limit true closers rest
          | rest => (passName? rest).bind (passFrom? limit false ('}' :: closers))
      | text => (passWord? text).bind (passFrom? limit true closers)

def pass? (text : List Char) : Option (List Char) := passFrom? (text.length + 2) false [] text

inductive Shape where
  | any
  | record (fields : List (String × Shape))
  | list (item : Shape)
deriving Repr, Inhabited

def shapedFields? (item? : Shape → List Char → Option (Value × List Char))
    (shapes : List (String × Shape)) :
    (limit : Nat) → List Char → Option (List (String × Value) × List Char)
  | 0, _ => none
  | limit + 1, text =>
      match skipSpace text with
      | '"' :: rest => do
          let (written, rest) ← quotedText? rest
          let name := String.ofList written
          match skipSpace rest with
          | ':' :: rest =>
              let (found, rest) ← match shapes.lookup name with
                | some shape =>
                    (item? shape rest).map fun (value, rest) => ([(name, value)], rest)
                | none => (pass? rest).map fun rest => ([], rest)
              match skipSpace rest with
              | ',' :: rest =>
                  let (others, rest) ← shapedFields? item? shapes limit rest
                  return (found ++ others, rest)
              | '}' :: rest => return (found, rest)
              | _ => none
          | _ => none
      | _ => none

def placedItems? (item? : Shape → List Char → Option (Value × List Char)) :
    (limit : Nat) → List Shape → List Char → Option (List Value × List Char)
  | 0, _, _ => none
  | limit + 1, shapes, text => do
      let (item, rest) ← item? (shapes.head?.getD .any) text
      match skipSpace rest with
      | ',' :: rest =>
          let (others, rest) ← placedItems? item? limit shapes.tail rest
          return (item :: others, rest)
      | ']' :: rest => return ([item], rest)
      | _ => none

def shapedWithin? (depth : Nat) (shape : Shape) (text : List Char) : Option (Value × List Char) :=
  match depth with
  | 0 => valueWithin? 0 text
  | depth + 1 =>
      match shape, skipSpace text with
      | .record shapes, '{' :: rest =>
          match skipSpace rest with
          | '}' :: rest => some (.obj [], rest)
          | rest =>
              (shapedFields? (shapedWithin? depth) shapes rest.length rest).map
                fun (fields, rest) => (.obj fields, rest)
      | .record shapes, '[' :: rest =>
          match skipSpace rest with
          | ']' :: rest => some (.arr [], rest)
          | rest =>
              (placedItems? (shapedWithin? depth) rest.length (shapes.map (·.2)) rest).map
                fun (items, rest) => (.arr items, rest)
      | .list item, '[' :: rest =>
          match skipSpace rest with
          | ']' :: rest => some (.arr [], rest)
          | rest =>
              (listItems? (shapedWithin? depth item) rest.length rest).map
                fun (items, rest) => (.arr items, rest)
      | _, text => valueWithin? (depth + 1) text

def readShaped? (shape : Shape) (text : String) : Option Value :=
  match shapedWithin? nesting shape text.toList with
  | some (value, rest) => if (skipSpace rest).isEmpty then some value else none
  | none => none

end Signpost.Value
