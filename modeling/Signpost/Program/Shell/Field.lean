import Signpost.Program.Numeral
import Signpost.Program.State

/-! The variables of a shell. -/

namespace Signpost.Program.Shell

structure Variable where
  /-- A variable can be marked before it has a value. -/
  value : Option String := none
  exported : Bool := false
  readOnly : Bool := false
deriving DecidableEq, Repr, Inhabited

abbrev Variables := List (String × Variable)

namespace Variables

def value? (bindings : Variables) (name : String) : Option String :=
  (bindings.lookup name).bind (·.value)

def text (bindings : Variables) (name : String) : String := (bindings.value? name).getD ""

def isReadOnly (bindings : Variables) (name : String) : Bool :=
  ((bindings.lookup name).map (·.readOnly)).getD false

def assign (bindings : Variables) (name : String) (value : Option String) : Variables :=
  put name { (bindings.lookup name).getD {} with value := value } bindings

def mark (bindings : Variables) (name : String) (change : Variable → Variable) : Variables :=
  put name (change ((bindings.lookup name).getD {})) bindings

def names (bindings : Variables) : List String :=
  (bindings.map (·.1)).mergeSort fun a b => a ≤ b

end Variables

/-- A text as the number that it stands for, with blanks around it; in a base other than that of its
prefix it must not be empty. -/
def number? (text : String) (decimal : Bool) : Option Int :=
  let chars := text.toList
  let numeral : Numeral Int :=
    if decimal then
      let (negative, body) := takeSign (skipBlanks chars)
      let (digits, rest) := takeDigits 10 body
      let size : Int := (valueIn 10 digits : Nat)
      if digits.isEmpty then ⟨0, chars, false⟩ else ⟨if negative then -size else size, rest, true⟩
    else readInteger chars
  let (n, outside) := toSigned numeral.value
  if outside || (decimal && !numeral.found) then none
  else if (skipBlanks numeral.rest).isEmpty then some n
  else none

/-! Words while they are expanded.

A word becomes a row of segments. What comes from a parameter without quotes is split into fields at
separators; what is written in the script stays together. A segment of all parameters has a border
where one ends and the next begins. -/

inductive Mark where
  | char (c : Char) (quoted : Bool)
  /-- The start or the end of a quotation, which makes a field even of no text. -/
  | quote
  | border
deriving DecidableEq, Repr, Inhabited

inductive Cutting where
  | never
  | atSeparators
  | atBorders
deriving DecidableEq, Repr, Inhabited

structure Segment where
  marks : List Mark
  cutting : Cutting
deriving DecidableEq, Repr, Inhabited

def marksOf (text : List Char) (quoted : Bool) : List Mark := text.map fun c => .char c quoted

/-- The characters of marks. Borders count as characters that no text has. -/
def charsOf (marks : List Mark) : List Char :=
  marks.filterMap fun
    | .char c _ => some c
    | .quote => none
    | .border => some '\x00'

def textOf (segments : List Segment) : String :=
  String.ofList (segments.flatMap fun segment => charsOf segment.marks)

def protectedChar (c : Char) : List Char := ['\\', c]

def patternOf (marks : List Mark) : List Char :=
  marks.flatMap fun
    | .char c true => protectedChar c
    | .char c false => [c]
    | .quote => []
    | .border => ['\x00']

def isBlankSeparator (c : Char) : Bool := c == ' ' || c == '\t' || c == '\n' || c == '\x00'

/-- Fields as they are being cut. The marks of the last field are kept from its end. -/
structure Cut where
  fields : List (List Mark) := []
  current : List Mark := []
  /-- Whether a blank separator has just ended a field. -/
  blank : Bool := false

namespace Cut

def add (cut : Cut) (mark : Mark) : Cut := { cut with current := mark :: cut.current, blank := false }

def close (cut : Cut) (blank : Bool) : Cut :=
  { fields := cut.current.reverse :: cut.fields, current := [], blank := blank }

def step (separators : List Char) (blanks : Bool) (cut : Cut) (mark : Mark) : Cut :=
  let c := match mark with
    | .char c _ => c
    | .quote => '\uffff'
    | .border => '\x00'
  let separates := c == '\x00' || separators.contains c
  let isBlank := separates && isBlankSeparator c
  if cut.blank then
    if !separates then cut.add mark
    else if isBlank then cut
    else { cut with blank := false }
  else if separates then
    if blanks && isBlank && cut.current.isEmpty then cut
    else cut.close (blanks && isBlank)
  else cut.add mark

/-- Takes in segments. `after` tells whether the last segment that was cut had borders. -/
def all (separators : List Char) : (after : Bool) → Cut → List Segment → Bool × Cut
  | after, cut, [] => (after, cut)
  | after, cut, segment :: rest =>
      match segment.cutting with
      | .never =>
          all separators after
            { cut with current := segment.marks.reverse ++ cut.current } rest
      | .atSeparators =>
          all separators false
            (segment.marks.foldl (step separators (!after)) { cut with blank := false }) rest
      | .atBorders =>
          all separators true (segment.marks.foldl (step [] false) { cut with blank := false }) rest

end Cut

def fieldsOf (separators : List Char) (segments : List Segment) : List (List Mark) :=
  let (borders, cut) := Cut.all separators false {} segments
  if borders || !cut.current.isEmpty then (cut.close false).fields.reverse else cut.fields.reverse

/-- A line as it is cut into a number of fields: the last one takes the rest of the line, without the
blank separators at its end. -/
structure LineCut where
  fields : List (List Char) := []
  current : List Char := []
  blank : Bool := false
  /-- How many more fields may be begun. -/
  more : Nat
  /-- How long the last field is without separators at its end, if there are some. -/
  keep : Option Nat := none

namespace LineCut

def step (separators : List Char) (cut : LineCut) (c : Char) (plain : Bool) : LineCut :=
  if plain then { cut with current := c :: cut.current, blank := false }
  else
    let separates := separators.contains c
    let isBlank := separates && isBlankSeparator c
    if cut.more = 0 then
      let added := { cut with current := c :: cut.current }
      if isBlank then { added with keep := some (cut.keep.getD cut.current.length) }
      else { added with keep := if separates && cut.blank then cut.keep else none, blank := false }
    else if cut.blank && isBlank then cut
    else
      let skips := cut.blank && separates
      if separates && !skips then
        if isBlank && cut.current.isEmpty then { cut with blank := false }
        else if cut.more = 1 then
          { cut with
            more := 0, keep := some cut.current.length, blank := isBlank, current := c :: cut.current }
        else
          { cut with
            fields := cut.current.reverse :: cut.fields
            current := [], blank := isBlank, more := cut.more - 1 }
      else if skips then { cut with blank := false }
      else { cut with current := c :: cut.current, blank := false }

def done (cut : LineCut) : List (List Char) :=
  let last := cut.current.reverse
  let last := (cut.keep.map fun length => last.take length).getD last
  if last.isEmpty then cut.fields.reverse else (last :: cut.fields).reverse

end LineCut

def lineFields (separators : List Char) (most : Nat) (line : List (Char × Bool)) : List String :=
  let cut := line.foldl (fun (cut : LineCut) (c, plain) => cut.step separators c plain) { more := most }
  cut.done.map String.ofList

end Signpost.Program.Shell
