import Signpost.Template.Argument
import Signpost.Template.Arithmetic
import Signpost.Template.Filter.List
import Signpost.Template.Filter.Text
import Signpost.Template.Test

/-! Filters on numbers. -/

namespace Signpost.Template

namespace Filter

def round (value : Datum) : Take Datum := do
  let precision := (← Take.optionalInteger (-2147483648) 2147483647).getD 0
  match value with
  | .int n => return .int n
  | .real x =>
      let scale := Double.tenTo precision
      return .real (Double.combine (· / ·) (Double.combine (· * ·) scale x).rounded scale)
  | _ => throw .operation

def abs (value : Datum) : Take Datum :=
  match value with
  | .int n => if n = -integerBound then throw .operation else return .int n.natAbs
  | .real x => return .real x.magnitude
  | _ => throw .operation

def integerOf (text : String) : Option Int :=
  match (Double.integerText? text.toList).filter fun n => -integerBound ≤ n && n < integerBound with
  | some n => some n
  | none => (Double.ofText? text).map (Double.clamped (-integerBound) (integerBound - 1))

def int (value : Datum) : Take Datum :=
  match value with
  | .undefined | .null => return .int 0
  | .bool value => return .nat value.toNat
  | .int n => return .int n
  | .real x => return .int (x.clamped (-integerBound) (integerBound - 1))
  | .text text _ =>
      match integerOf text with
      | some n => return .int n
      | none => throw .operation
  | _ => throw .operation

def float (value : Datum) : Take Datum :=
  match value with
  | .undefined | .null => return .real (Double.zero false)
  | .text text _ =>
      match Double.ofText? text with
      | some x => return .real x
      | none => throw .operation
  | value =>
      match value.double? with
      | some x => return .real x
      | none => throw .operation

def sum (value : Datum) : Take Datum := do
  let items ← Take.sure value.items?
  let defined := items.filter fun item => !item.isUndefined
  if !defined.all Datum.isNumber then throw .operation
  else
    let total : Except Fault Datum := defined.foldlM Operator.add.apply (.int 0)
    total

end Filter

/-! Filters and tests by name.

Some filters apply another filter or a test to every item. A filter that is applied in this way has
fewer arguments than the one that applies it, so the recursion ends. -/

namespace Filter

def plainTable : List (String × (Datum → Take Datum)) :=
  [("safe", safe), ("escape", escape), ("e", escape), ("lower", ofText Text.lower),
    ("upper", ofText Text.upper), ("title", ofChars (Text.titled false)),
    ("capitalize", ofChars Text.capitalized), ("replace", replace), ("length", length),
    ("count", length), ("items", items), ("reverse", reverse), ("trim", trim), ("join", join),
    ("split", split), ("lines", lines), ("default", default), ("d", default), ("round", round),
    ("abs", abs), ("int", int), ("float", float), ("attr", attr), ("first", first),
    ("last", last), ("min", min), ("max", max), ("list", list), ("string", string),
    ("bool", bool), ("batch", batch), ("slice", slice), ("sum", sum), ("indent", indent),
    ("chain", chain), ("zip", zip), ("pprint", pretty)]

def namedTable : List (String × List String × (Options → Datum → Take Datum)) :=
  [("dictsort", ["by", "case_sensitive", "reverse"], dictsort),
    ("sort", ["attribute", "case_sensitive", "reverse"], sort),
    ("groupby", ["attribute", "default", "case_sensitive"], groupby),
    ("unique", ["attribute", "case_sensitive"], unique)]

def otherNames : List String := ["map", "select", "reject", "selectattr", "rejectattr", "format"]

def names : List String := plainTable.map (·.1) ++ namedTable.map (·.1) ++ otherNames

end Filter

namespace Test

def names : List String := table.map (·.1) ++ ["filter", "test"]

def apply (name : String) (value : Datum) (given : List Datum) : Except Fault Bool :=
  let isName (names : List String) : Take Bool :=
    return (value.text?.map names.contains).getD false
  match name with
  | "filter" => (isName Filter.names).all given
  | "test" => (isName names).all given
  | name =>
      match table.lookup name with
      | some test => (test value).all given
      | none => .error (.unknownTest name)

def chosen (name? : Option String) (given : List Datum) (value : Datum) : Except Fault Bool :=
  match name? with
  | some name => apply name value given
  | none => .ok value.holds

end Test

namespace Filter

def selected (wanted : Bool) (part : Datum → Except Fault Datum) (name? : Option String)
    (given items : List Datum) : Except Fault Datum := do
  if (name?.map Test.names.contains).getD true then
    let kept ← items.filterM fun item => do
      return (← Test.chosen name? given (← part item)) == wanted
    return .ofItems kept
  else .error (.unknownTest (name?.getD ""))

def select (wanted : Bool) (value : Datum) (given : List Datum) : Except Fault Datum := do
  let take : Take (Option String × List Datum) :=
    return (← Take.optionalPrinted, ← Take.rest)
  let (name?, given) ← take.all given
  selected wanted .ok name? given (← itemsOf value)

def selectattr (wanted : Bool) (value : Datum) (given : List Datum) : Except Fault Datum := do
  let take : Take (String × Option String × List Datum) :=
    return (← Take.printed, ← Take.optionalPrinted, ← Take.rest)
  let (path, name?, given) ← take.all given
  selected wanted (fun item => item.atPath path) name? given (← itemsOf value)

def partOf (part missing item : Datum) : Except Fault Datum :=
  let found := match part with
    | .text path _ => item.atPath path
    | key => item.item key
  match found with
  | .ok .undefined => .ok missing
  | .ok found => .ok found
  | .error fault => if missing.isUndefined then .error fault else .ok missing

def map (filter : String → Datum → List Datum → Except Fault Datum) (value : Datum)
    (given : List Datum) : Except Fault Datum := do
  let (plain, options) := Options.split given
  match ← options.as? "attribute" some, plain with
  | some part, [] => do
      options.only ["attribute", "default"]
      let missing := (options.find? "default").getD .undefined
      return .ofItems (← (← itemsOf value).mapM (partOf part missing))
  | some _, _ :: _ => .error .argument
  | none, .text name _ :: rest =>
      if names.contains name then
        return .ofItems (← (← itemsOf value).mapM fun item => filter name item rest)
      else .error (.unknownFilter name)
  | none, _ => .error .argument

def applyWithin : (depth : Nat) → (name : String) → Datum → List Datum → Except Fault Datum
  | 0, _, _, _ => .error .tooDeep
  | depth + 1, name, value, given =>
      match name with
      | "map" => map (applyWithin depth) value given
      | "select" => select true value given
      | "reject" => select false value given
      | "selectattr" => selectattr true value given
      | "rejectattr" => selectattr false value given
      | "format" => (format value.printed given).map Datum.ofText
      | name =>
          match plainTable.lookup name, namedTable.lookup name with
          | some filter, _ => (filter value).all given
          | none, some (options, filter) =>
              takeWith options given fun options => filter options value
          | none, none => .error (.unknownFilter name)

def apply (name : String) (value : Datum) (given : List Datum) : Except Fault Datum :=
  applyWithin (given.length + 1) name value given

end Filter

end Signpost.Template
