import Signpost.Template.Datum
import Signpost.Text.Basic
import Signpost.Template.Printed

/-! Items, attributes and slices.

What a datum does not have is undefined; only what is itself undefined has no items at all. -/

namespace Signpost.Template

namespace Datum

def position? (key : Datum) (size : Option Nat) : Option Nat :=
  match key.integerWithin? (-9223372036854775808) 9223372036854775807 with
  | none => none
  | some n =>
      if 0 ≤ n then some n.toNat
      else match size with
        | some size => if n.natAbs ≤ size then some (size - n.natAbs) else none
        | none => none

def named? (items : List Datum) (names : List String) (key : Datum) : Option Datum :=
  match key with
  | .text name _ => (names.zip items).lookup name
  | _ => none

def item? (container key : Datum) : Option Datum :=
  match container with
  | .text value _ => ((key.position? (some value.length)).bind fun i => value.toList[i]?).map ofChar
  | .list items names =>
      match key.position? (some items.length) with
      | some i => items[i]?
      | none => named? items names key
  | .stream items sized =>
      (key.position? (if sized then some items.length else none)).bind fun i => items[i]?
  | value => value.entries?.bind fun entries => find? entries key

def item (container key : Datum) : Except Fault Datum :=
  match container with
  | .undefined => .error .undefined
  | container => .ok ((container.item? key).getD .undefined)

def member (value : Datum) (name : String) : Except Fault Datum :=
  match value with
  | .undefined => .error .undefined
  | .text _ _ => .ok .undefined
  | value => .ok ((value.item? (.ofText name)).getD .undefined)

def pathPosition? (part : List Char) : Option Nat :=
  (Text.count? (String.ofList part))

def follow (value : Datum) : List (List Char) → Except Fault Datum
  | [] => .ok value
  | part :: parts => do
      let next ← match pathPosition? part with
        | some n => value.item (nat n)
        | none => value.member (String.ofList part)
      follow next parts

def atPath (value : Datum) (path : String) : Except Fault Datum :=
  value.follow (Text.fields '.' path.toList)

def atPathOr (value default : Datum) (path : String) : Datum :=
  match value.atPath path with
  | .ok .undefined | .error _ => default
  | .ok found => found

end Datum

def everyNth {α : Type} (step : Nat) (items : List α) : List α :=
  (items.zipIdx.filter fun (_, i) => i % step == 0).map (·.1)

/-- The distance that a bound before the start of a list is taken for. -/
def farAway : Int := 18446744073709551616

/-- A bound as a position: a negative one counts from the end, and one before the start is taken to
lie far behind the end. -/
def boundPosition (size : Nat) (bound : Int) : Nat :=
  if 0 ≤ bound then bound.toNat
  else if bound.natAbs ≤ size then size - bound.natAbs
  else (farAway - (bound.natAbs - size)).toNat

def forwardSlice {α : Type} (items : List α) (first last : Option Int) (step : Nat) : List α :=
  let start := (first.map (boundPosition items.length)).getD 0
  let stop := (last.map (boundPosition items.length)).getD items.length
  everyNth step ((items.drop start).take (stop - start))

def backwardSlice {α : Type} (items : List α) (first last : Option Int) (step : Nat) : List α :=
  let size := items.length
  let clamp (bound : Int) : Nat :=
    if 0 ≤ bound then bound.toNat else size - bound.natAbs
  let start := match first with
    | none => size - 1
    | some bound => if size ≤ bound then size - 1 else clamp bound
  let stop := (last.map clamp).getD 0
  let count := if stop = 0 then (start + step) / step else (start - stop + step - 1) / step
  (everyNth step (((items.take (start + 1)).drop stop).reverse)).take count

def sliceBound? : Datum → Except Fault (Option Int)
  | .null => .ok none
  | value => match value.integerWithin? (-9223372036854775808) 9223372036854775807 with
    | some n => .ok (some n)
    | none => .error .argument

def Datum.slice (value first last step : Datum) : Except Fault Datum := do
  let first ← sliceBound? first
  let last ← sliceBound? last
  let step := (← sliceBound? step).getD 1
  let cut {α : Type} (items : List α) : List α :=
    if 0 < step then forwardSlice items first last step.natAbs
    else backwardSlice items first last step.natAbs
  if step = 0 then .error .operation
  else match value with
    | .undefined | .null => .ok (.ofItems [])
    | .text value _ => .ok (.ofChars (cut value.toList))
    | .list items _ => .ok (.stream (cut items) true)
    | .stream items sized => .ok (.stream (cut items) sized)
    | _ => .error .operation

/-! The arguments of filters, tests and functions.

Arguments are taken one after the other, and none may be left over. An argument that may be left out
counts as left out when it is undefined or none. Where text is wanted any datum is printed, unless a
text is required as such. -/

abbrev Take := StateT (List Datum) (Except Fault)

namespace Take

def all {α : Type} (take : Take α) (given : List Datum) : Except Fault α := do
  let (value, rest) ← take.run given
  if rest.isEmpty then return value else .error .argument

def value : Take Datum := do
  match ← get with
  | [] => throw .argument
  | first :: rest => do
      set rest
      return first

def optional : Take (Option Datum) := do
  match ← get with
  | [] => return none
  | first :: rest => do
      set rest
      return if first.isAbsent then none else some first

def rest : Take (List Datum) := do
  let left ← get
  set ([] : List Datum)
  return left

def sure {α : Type} : Option α → Take α
  | some value => return value
  | none => throw .argument

def optionalAs {α : Type} (as? : Datum → Option α) : Take (Option α) := do
  match ← optional with
  | some given => return some (← sure (as? given))
  | none => return none

def printed : Take String := return (← value).printed

def optionalPrinted : Take (Option String) := optionalAs fun given => some given.printed

def text : Take String := do sure (← value).text?

def optionalText : Take (Option String) := optionalAs Datum.text?

def count : Take Nat := do sure (← value).count?

def truth? : Datum → Option Bool
  | .bool value => some value
  | _ => none

def optionalTruth : Take (Option Bool) := optionalAs truth?

def optionalInteger (least greatest : Int) : Take (Option Int) :=
  optionalAs (Datum.integerWithin? least greatest)

end Take

structure Options where
  entries : List (Datum × Datum)

namespace Options

def split (given : List Datum) : List Datum × Options :=
  match given.getLast? with
  | some (.options entries) => (given.dropLast, ⟨entries⟩)
  | _ => (given, ⟨[]⟩)

def find? (options : Options) (name : String) : Option Datum :=
  Datum.find? options.entries (.ofText name)

def only (options : Options) (names : List String) : Except Fault Unit :=
  if options.entries.all fun (key, _) => (key.text?.map names.contains).getD false then .ok ()
  else .error .argument

def as? {α : Type} (options : Options) (name : String) (as? : Datum → Option α) :
    Except Fault (Option α) :=
  match options.find? name with
  | none => .ok none
  | some given =>
      if given.isAbsent then .ok none
      else match as? given with
        | some value => .ok (some value)
        | none => .error .argument

def truth (options : Options) (name : String) : Except Fault Bool := do
  return (← options.as? name Take.truth?).getD false

def text? (options : Options) (name : String) : Except Fault (Option String) :=
  options.as? name Datum.text?

end Options

def takeWith {α : Type} (names : List String) (given : List Datum)
    (take : Options → Take α) : Except Fault α := do
  let (plain, options) := Options.split given
  options.only names
  (take options).all plain

def itemsOf (value : Datum) : Except Fault (List Datum) :=
  match value.items? with
  | some items => .ok items
  | none => .error .operation

end Signpost.Template
