import Signpost.Text.Basic
import Signpost.Value.Shape

/-! The content types of requests.

A content type is a kind and a subtype, perhaps with parameters. Part of the subtype after its last
plus is its suffix. One malformed parameter spoils the whole type. -/

namespace Signpost.Server

structure MediaType where
  kind : String
  subtype : String
  suffix : Option String := none
deriving DecidableEq, Repr, Inhabited

namespace MediaType

def isToken (c : Char) : Bool := c.isAlphanum || "!#$%&'*+-.^_`|~".contains c

/-- The text after the quote that closes a value; the value has at least one character. -/
def closeQuote? : List Char → Option (List Char)
  | c :: rest =>
      let inside := rest.takeWhile fun d => d != '"' && ' ' ≤ d && d != '\x7f'
      match rest.drop inside.length with
      | '"' :: after => if ' ' ≤ c && c != '\x7f' then some after else none
      | _ => none
  | [] => none

def afterValue? : List Char → Option (List Char)
  | '"' :: rest =>
      match (closeQuote? rest).map (·.dropWhile (· == ' ')) with
      | some [] => some []
      | some (';' :: rest) => some rest
      | _ => none
  | text =>
      let value := text.takeWhile isToken
      match text.drop value.length with
      | [] => some []
      | ';' :: rest => if value.isEmpty then none else some rest
      | _ => none

/-- Whether a text is a sequence of parameters; `limit` bounds their number. -/
def areParameters : (limit : Nat) → List Char → Bool
  | 0, _ => false
  | limit + 1, text =>
      match text.dropWhile (· == ' ') with
      | [] => true
      | text =>
          let name := text.takeWhile isToken
          match text.drop name.length with
          | '=' :: rest => !name.isEmpty && (afterValue? rest).any (areParameters limit)
          | _ => false

/-- The subtype before the last plus and the suffix after it; a plus at the start does not count. -/
def parts (subtype : List Char) : List Char × Option (List Char) :=
  let suffix := (subtype.reverse.takeWhile (· != '+')).reverse
  let before := subtype.take (subtype.length - suffix.length - 1)
  if suffix.length < subtype.length && !before.isEmpty then (before, some suffix) else (subtype, none)

/-- Reads a content type; case does not count. -/
def read? (text : String) : Option MediaType :=
  let cs := text.toList.map Char.toLower
  let kind := cs.takeWhile isToken
  match cs.drop kind.length with
  | '/' :: rest =>
      let name := rest.takeWhile isToken
      let sound := match rest.drop name.length with
        | [] => true
        | ';' :: parameters => !name.isEmpty && areParameters (parameters.length + 1) parameters
        | _ => false
      if kind.isEmpty || !sound then none
      else
        let (subtype, suffix) := parts name
        some ⟨String.ofList kind, String.ofList subtype, suffix.map String.ofList⟩
  | _ => none

def holdsValue (type : MediaType) : Bool :=
  type.kind == "application" && (type.subtype == "json" || type.suffix == some "json")

end MediaType

/-! The records that requests carry.

A body is read from its start, and the first fault decides: text that is no value at all, or a value
of another shape than the request needs. -/

inductive BodyFault where
  | malformed
  | misshapen
deriving DecidableEq, Repr, Inhabited

inductive FieldKind where
  | text
  | texts
  | optionalText
deriving DecidableEq, Repr, Inhabited

/-- The fields of a body in order, of which the first `needed` must be there. -/
structure BodyShape where
  fields : List (String × FieldKind)
  needed : Nat := 1
deriving DecidableEq, Repr, Inhabited

abbrev BodyResult (α : Type) := Except BodyFault (α × List Char)

/-- The fault of a value that is not what it should be: the value is read unless it is a list or a
record. -/
def unexpected (text : List Char) : BodyFault :=
  match Value.skipSpace text with
  | '[' :: _ | '{' :: _ => .misshapen
  | text => if (Value.valueWithin? 0 text).isSome then .misshapen else .malformed

def readText (text : List Char) : BodyResult Value :=
  match Value.skipSpace text with
  | '"' :: rest =>
      match Value.quotedText? rest with
      | some (cs, rest) => .ok (.str (String.ofList cs), rest)
      | none => .error .malformed
  | text => .error (unexpected text)

def readTexts : (limit : Nat) → List Char → BodyResult (List Value)
  | 0, _ => .error .malformed
  | limit + 1, text =>
      match readText text with
      | .error fault => .error fault
      | .ok (item, rest) =>
          match Value.skipSpace rest with
          | ']' :: rest => .ok ([item], rest)
          | ',' :: rest =>
              match readTexts limit rest with
              | .ok (items, rest) => .ok (item :: items, rest)
              | .error fault => .error fault
          | _ => .error .malformed

def readField (kind : FieldKind) (text : List Char) : BodyResult Value :=
  match kind with
  | .text => readText text
  | .optionalText =>
      match Value.skipSpace text with
      | 'n' :: 'u' :: 'l' :: 'l' :: rest => .ok (.null, rest)
      | text => readText text
  | .texts =>
      match Value.skipSpace text with
      | '[' :: rest =>
          match Value.skipSpace rest with
          | ']' :: rest => .ok (.arr [], rest)
          | rest => (readTexts rest.length rest).map fun (items, rest) => (.arr items, rest)
      | text => .error (unexpected text)

def readOther (text : List Char) : BodyResult Value :=
  match Value.pass? text with
  | some rest => .ok (.null, rest)
  | none => .error .malformed

/-- The name and the value of a field; a known field must not be there already. -/
def readEntry (shape : BodyShape) (given : Fields) (text : List Char) : BodyResult Fields :=
  match Value.skipSpace text with
  | '"' :: rest =>
      match Value.quotedText? rest with
      | none => .error .malformed
      | some (cs, rest) =>
          let name := String.ofList cs
          let kind := shape.fields.lookup name
          if kind.isSome && Fields.has given name then .error .misshapen
          else match Value.skipSpace rest with
            | ':' :: rest =>
                let read := match kind with
                  | some kind => readField kind rest
                  | none => readOther rest
                read.map fun (value, rest) => (given ++ [(name, value)], rest)
            | _ => .error .malformed
  | _ => .error .malformed

/-- The fields of a record up to its brace; `limit` bounds their number. -/
def readEntries (shape : BodyShape) : (limit : Nat) → Fields → List Char → BodyResult Fields
  | 0, _, _ => .error .malformed
  | limit + 1, given, text =>
      match readEntry shape given text with
      | .error fault => .error fault
      | .ok (given, rest) =>
          match Value.skipSpace rest with
          | '}' :: rest => .ok (given, rest)
          | ',' :: rest => readEntries shape limit given rest
          | _ => .error .malformed

def readPositions (given : Fields) : List (String × FieldKind) → List Char → BodyResult Fields
  | [], text =>
      match Value.skipSpace text with
      | ']' :: rest => .ok (given, rest)
      | _ => .error .malformed
  | (name, kind) :: fields, text =>
      let read (text : List Char) : BodyResult Fields :=
        match readField kind text with
        | .ok (value, rest) => readPositions (given ++ [(name, value)]) fields rest
        | .error fault => .error fault
      match Value.skipSpace text with
      | ']' :: rest => .ok (given, rest)
      | ',' :: rest => if given.isEmpty then .error .malformed else read rest
      | text => if given.isEmpty then read text else .error .malformed

def readShape (shape : BodyShape) (text : List Char) : BodyResult Fields :=
  match Value.skipSpace text with
  | '{' :: rest =>
      match Value.skipSpace rest with
      | '}' :: rest => .ok ([], rest)
      | rest => readEntries shape rest.length [] rest
  | '[' :: rest => readPositions [] shape.fields rest
  | text => .error (unexpected text)

def readBody (shape : BodyShape) (body : String) : Except BodyFault Fields :=
  match readShape shape body.toList with
  | .error fault => .error fault
  | .ok (given, rest) =>
      if !((shape.fields.take shape.needed).all fun (name, _) => Fields.has given name) then
        .error .misshapen
      else if (Value.skipSpace rest).isEmpty then .ok given
      else .error .malformed

end Signpost.Server
