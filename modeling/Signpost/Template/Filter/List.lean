import Signpost.Template.Argument
import Signpost.Template.Arithmetic
import Signpost.Text.Basic
import Signpost.Text.Case

/-! Filters on lists and maps. -/

namespace Signpost.Template

def Datum.orderBy (sensitive : Bool) (a b : Datum) : Ordering :=
  match sensitive, a, b with
  | false, .text s _, .text t _ =>
      compare (String.ofList (s.toList.map Char.toLower)) (String.ofList (t.toList.map Char.toLower))
  | _, a, b => a.order b

def sortedBy {α : Type} (order : α → α → Ordering) (items : List α) : List α :=
  items.mergeSort fun a b => order a b != .gt

/-- The parts of a list, each of a length that is not zero; the last one may be shorter. -/
def chunks {α : Type} (size : Nat) : (fuel : Nat) → List α → List (List α)
  | 0, _ | _, [] => []
  | fuel + 1, items => items.take size :: chunks size fuel (items.drop size)

def divided {α : Type} (size : Nat) : (count extra : Nat) → List α → List (List α)
  | 0, _, _ => []
  | count + 1, extra, items =>
      let here := if 0 < extra then size + 1 else size
      items.take here :: divided size count (extra - 1) (items.drop here)

def rows : (count : Nat) → List (List Datum) → List (List Datum)
  | 0, _ => []
  | count + 1, lists =>
      lists.map (fun list => list.head?.getD .undefined) :: rows count (lists.map List.tail)

namespace Filter

def length (value : Datum) : Take Datum :=
  match value.size? with
  | some n => return .nat n
  | none => throw .operation

def first (value : Datum) : Take Datum :=
  match value with
  | .undefined | .null | .bool _ | .int _ | .real _ => throw .operation
  | value => do return (← Take.sure value.items?).head?.getD .undefined

def last (value : Datum) : Take Datum :=
  match value with
  | .text _ _ | .list _ _ | .stream _ _ =>
      do return (← Take.sure value.items?).getLast?.getD .undefined
  | _ => throw .operation

def reverse (value : Datum) : Take Datum :=
  match value with
  | .undefined | .null => return value
  | .text value _ => return .ofChars value.toList.reverse
  | value => do return .stream (← Take.sure value.items?).reverse true

def list (value : Datum) : Take Datum := do return .ofItems (← Take.sure value.items?)

def bool (value : Datum) : Take Datum := return .bool value.holds

def attr (value : Datum) : Take Datum := do value.item (← Take.value)

def default (value : Datum) : Take Datum := do
  let other := (← Take.optional).getD (.ofText "")
  let lax := (← Take.optionalTruth).getD false
  return if value.isUndefined || (lax && !value.holds) then other else value

def items (value : Datum) : Take Datum := do
  let entries ← Take.sure value.entries?
  return .ofItems (entries.map fun (key, value) => .ofItems [key, value])

def extreme (before : Ordering → Bool) (value : Datum) : Take Datum := do
  match ← Take.sure value.items? with
  | [] => return .undefined
  | item :: others =>
      return others.foldl (fun best other => if before (other.order best) then other else best) item

def min : Datum → Take Datum := extreme (· == .lt)

def max : Datum → Take Datum := extreme (· != .lt)

def turned (options : Options) (items : List Datum) : Take (List Datum) := do
  return if ← options.truth "reverse" then items.reverse else items

def orderByPaths (sensitive : Bool) (paths : List String) (a b : Datum) : Ordering :=
  paths.foldl (fun order path => order.then
    (match a.atPath path, b.atPath path with
      | .ok x, .ok y => x.orderBy sensitive y
      | _, _ => .eq)) .eq

def sort (options : Options) (value : Datum) : Take Datum := do
  let items ← Take.sure value.items?
  let sensitive ← options.truth "case_sensitive"
  let order := match ← options.text? "attribute" with
    | some names =>
        orderByPaths sensitive ((Text.fields ',' names.toList).map fun path =>
          Text.trim (String.ofList path))
    | none => Datum.orderBy sensitive
  return .ofItems (← turned options (sortedBy order items))

def dictsort (options : Options) (value : Datum) : Take Datum := do
  let entries ← Take.sure value.entries?
  let byValue ← match ← options.text? "by" with
    | none | some "key" => pure false
    | some "value" => pure true
    | some _ => throw .argument
  let sensitive ← options.truth "case_sensitive"
  let chosen (entry : Datum × Datum) : Datum := if byValue then entry.2 else entry.1
  let sorted := sortedBy (fun a b => (chosen a).orderBy sensitive (chosen b)) entries
  return .ofItems (← turned options (sorted.map fun (key, value) => .ofItems [key, value]))

/-- Gathers neighbours whose keys are equal. The last member of a group gives it its key. -/
def gathered (sensitive : Bool) : List (Datum × Datum) → List (Datum × List Datum)
  | [] => []
  | (key, item) :: rest =>
      match gathered sensitive rest with
      | [] => [(key, [item])]
      | (other, members) :: groups =>
          match rest with
          | (next, _) :: _ =>
              if key.orderBy sensitive next == .eq then (other, item :: members) :: groups
              else (key, [item]) :: (other, members) :: groups
          | [] => [(key, [item])]

def groupby (options : Options) (value : Datum) : Take Datum := do
  let path? ← Take.optionalText
  let default := (← options.as? "default" some).getD .undefined
  let sensitive ← options.truth "case_sensitive"
  let path ← match path? with
    | some path => pure path
    | none => Take.sure (← options.text? "attribute")
  let items ← Take.sure value.items?
  let keyed := items.map fun item => (item.atPathOr default path, item)
  let sorted := sortedBy (fun a b => a.1.orderBy sensitive b.1) keyed
  return .ofItems ((gathered sensitive sorted).map fun (key, members) =>
    .list [key, .stream members true] ["grouper", "list"])

def distinct (seen : List Datum) : List (Datum × Datum) → List Datum
  | [] => []
  | (key, item) :: rest =>
      if seen.any fun other => other.order key == .eq then distinct seen rest
      else item :: distinct (key :: seen) rest

def unique (options : Options) (value : Datum) : Take Datum := do
  let path? ← options.text? "attribute"
  let sensitive ← options.truth "case_sensitive"
  let items ← Take.sure value.items?
  let key (item : Datum) : Datum :=
    let found := match path? with
      | some path => item.atPathOr .undefined path
      | none => item
    match sensitive, found with
    | false, .text text _ => .ofText (Text.lower text)
    | _, found => found
  return .ofItems (distinct [] (items.map fun item => (key item, item)))

def filled (filler : Option Datum) (count : Nat) (items : List Datum) : Datum :=
  .ofItems (items ++ match filler with
    | some filler => List.replicate count filler
    | none => [])

def batch (value : Datum) : Take Datum := do
  let count ← Take.count
  let filler ← Take.optional
  let items ← Take.sure value.items?
  if count = 0 || (filler.isSome && repetitionBound < count) then throw .argument
  else return .ofItems ((chunks count items.length items).map fun part => filled filler (count - part.length) part)

def slice (value : Datum) : Take Datum := do
  let count ← Take.count
  let filler ← Take.optional
  let items ← Take.sure value.items?
  if count = 0 || repetitionBound < count then throw .argument
  else
    let extra := items.length % count
    return .ofItems ((divided (items.length / count) count extra items).zipIdx.map fun (part, i) =>
      filled filler (if extra ≤ i then 1 else 0) part)

def chain (value : Datum) : Take Datum := do
  let all := value :: (← Take.rest)
  match all.mapM Datum.entries? with
  | some maps => return .map (Datum.ofEntries maps.flatten)
  | none =>
      let lists ← Take.sure (all.mapM Datum.items?)
      return .ofItems lists.flatten

def zip (value : Datum) : Take Datum := do
  let lists ← Take.sure ((value :: (← Take.rest)).mapM Datum.items?)
  let count := (lists.map List.length).min?.getD 0
  return .stream ((rows count lists).map Datum.ofItems) false

end Filter

end Signpost.Template
