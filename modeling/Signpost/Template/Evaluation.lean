import Signpost.Template.Scene

/-! The meaning of expressions and statements.

Both follow the structure of what they evaluate. Only routines, blocks and the reentry of loops run
code from elsewhere; they go through a `Runner`, which stands for the same evaluation one level deeper.
Every such run adds a frame, so a runner of as many levels as there may be frames never runs out. -/

namespace Signpost.Template

structure Runner where
  routine : Routine → List Datum → Scenic Datum
  body : List Statement → Scenic String
  loop : Target → List Statement → Datum → Scenic String

/-! ## Calls -/

def rangeOf (first last step : Nat) : Except Fault Datum :=
  let count := (last - first + step - 1) / step
  if step = 0 || 100000 < count then .error .argument
  else .ok (.stream ((List.range count).map fun i => .nat (first + i * step)) true)

def rangeBound : Int := 4294967295

def callRange (given : List Datum) : Except Fault Datum := do
  let take : Take (Int × Option Int × Option Int) := do
    let first ← Take.sure ((← Take.value).integerWithin? 0 rangeBound)
    return (first, ← Take.optionalInteger 0 rangeBound, ← Take.optionalInteger 0 rangeBound)
  let (first, last?, step?) ← take.all given
  let step := (step?.getD 1).toNat
  match last? with
  | some last => rangeOf first.toNat last.toNat step
  | none => rangeOf 0 first.toNat step

def callDict (given : List Datum) : Except Fault Datum := do
  let (plain, options) := Options.split given
  let value? ← Take.optional.all plain
  match value? with
  | none => .ok (.map (Datum.ofEntries options.entries))
  | some value =>
      match value.entries? with
      | some entries => .ok (.map (Datum.ofEntries (entries ++ options.entries)))
      | none => .error .argument

def callNamespace (given : List Datum) : Scenic Datum := do
  let value? ← Take.optional.all given
  let entries ← match value? with
    | none => pure []
    | some value => match value.entries? with
      | some entries => pure entries
      | none => throw .argument
  let members ← entries.mapM fun (key, value) => match key with
    | .text name _ => pure (name, value)
    | _ => throw .argument
  let scene ← get
  set { scene with spaces := scene.spaces.push members }
  return .object (.space scene.spaces.size) none []

def callDebug (given : List Datum) : Except Fault Datum :=
  match given with
  | [] => .error .argument
  | [value] => .ok (.ofText (value.pretty 0))
  | values => .ok (.ofText ((Datum.ofItems values).pretty 0))

def callFunction (name : String) (given : List Datum) : Scenic Datum :=
  match name with
  | "range" => callRange given
  | "dict" => callDict given
  | "namespace" => callNamespace given
  | "debug" => callDebug given
  | name => throw (.unknownFunction name)

def callDatum (run : Runner) (callee : Datum) (given : List Datum) : Scenic Datum :=
  match callee with
  | .object (.routine place) _ _ => do
      match (← get).routines[place]? with
      | some routine => run.routine routine given
      | none => throw .operation
  | .object (.function name) _ _ => callFunction name given
  | _ => throw .operation

def callLoop (run : Runner) (given : List Datum) : Scenic Datum := do
  match (← get).loop?.bind LoopFrame.again, given with
  | some (target, body), [items] => do Scenic.printedText (← run.loop target body items)
  | _, _ => throw .operation

def callName (run : Runner) (name : String) (given : List Datum) : Scenic Datum := do
  if name = "super" then throw .operation
  else if name = "loop" then callLoop run given
  else match (← get).find? name with
    | some callee => callDatum run callee given
    | none => throw (.unknownFunction name)

def loopChanged (place : Nat) (given : List Datum) : Scenic Datum := do
  let scene ← get
  match scene.loops[place]? with
  | none => throw .operation
  | some state =>
      let same := match state.noted with
        | some noted => Datum.equalItems noted given
        | none => false
      if !same then
        set { scene with loops := scene.loops.modify place fun state =>
          { state with noted := some given } }
      return .bool !same

def loopCycle (place : Nat) (given : List Datum) : Scenic Datum := do
  match (← get).loops[place]? with
  | some state => return (given[state.index % given.length]?).getD .undefined
  | none => throw .operation

def callMember (run : Runner) (container : Datum) (name : String) (given : List Datum) :
    Scenic Datum :=
  match container with
  | .object (.loop place) _ _ =>
      if name = "changed" then loopChanged place given
      else if name = "cycle" then loopCycle place given
      else throw .operation
  | container =>
      match container.isMap, container.member name with
      | true, .ok callee => callDatum run callee given
      | _, _ => throw .operation

def callBlock (run : Runner) (name : String) : Scenic String := do
  match (← get).blocks.lookup name with
  | some body => Scenic.inFrame Frame.empty (run.body body)
  | none => throw .operation

/-! ## Expressions -/

def argumentList (arguments : List (Form × Expr)) (plain : List Datum)
    (named : List (Datum × Datum)) : List Datum :=
  let hasNamed := arguments.any fun (form, _) => match form with
    | .named _ | .spreadNamed => true
    | .plain | .spread => false
  if hasNamed then plain ++ [.options (Datum.ofEntries named)] else plain

def namesSame (a b : Expr) (x y : Datum) : Bool :=
  match a, b with
  | .binding _, .binding _ | .binding _, .member _ _ | .member _ _, .binding _
  | .member _ _, .member _ _ => x.items?.isSome && x.text?.isNone && x.rank == y.rank && x.equals y
  | _, _ => false

mutual
def evaluate (run : Runner) : Expr → Scenic Datum
  | .constant value => return value
  | .binding name => return ((← get).find? name).getD .undefined
  | .list items => return .ofItems (← evaluateItems run items)
  | .map entries => return .map (Datum.ofEntries (← evaluateEntries run entries))
  | .member container name => do
      let found : Datum ← Scenic.current (← evaluate run container)
      found.member name
  | .item container key => do
      let container ← evaluate run container
      let key ← evaluate run key
      let found : Datum ← Scenic.current container
      found.item key
  | .slice container first last step => do
      let container ← evaluate run container
      let first ← evaluateBound run first
      let last ← evaluateBound run last
      let step ← evaluateBound run step
      container.slice first last step
  | .negate operand => do (← evaluate run operand).negated
  | .not operand => do return .bool !(← Scenic.holds (← evaluate run operand))
  | .binary operator left right => do
      let left ← evaluate run left
      match operator, ← Scenic.holds left with
      | .and, false | .or, true => return left
      | .and, true | .or, false => evaluate run right
      | operator, _ => do
          let right ← evaluate run right
          operator.apply (← Scenic.seen left) (← Scenic.seen right)
  | .choose condition yes no => do
      if ← Scenic.holds (← evaluate run condition) then evaluate run yes
      else evaluateOption run no
  | .filter subject name arguments => do
      let value ← match subject with
        | some subject => evaluate run subject
        | none => pure (← get).captured
      let plain ← evaluatePlain run arguments
      let named ← evaluateNamed run arguments
      let given ← (argumentList arguments plain named).mapM Scenic.seen
      Filter.apply name (← Scenic.seen value) given
  | .test subject name arguments => do
      let value ← Scenic.seen (← evaluate run subject)
      let plain ← evaluatePlain run arguments
      let named ← evaluateNamed run arguments
      let given ← (argumentList arguments plain named).mapM Scenic.seen
      match name, arguments, given with
      | "sameas", [(_, other)], [same] =>
          if namesSame subject other value same then return .bool true
          else return .bool (← Test.apply name value given)
      | name, _, given => return .bool (← Test.apply name value given)
  | .call (.binding name) arguments => do
      let plain ← evaluatePlain run arguments
      let named ← evaluateNamed run arguments
      callName run name (argumentList arguments plain named)
  | .call (.member (.binding "self") name) _ => do Scenic.printedText (← callBlock run name)
  | .call (.member container name) arguments => do
      let container ← evaluate run container
      let plain ← evaluatePlain run arguments
      let named ← evaluateNamed run arguments
      callMember run (← Scenic.current container) name (argumentList arguments plain named)
  | .call callee arguments => do
      let callee ← evaluate run callee
      let plain ← evaluatePlain run arguments
      let named ← evaluateNamed run arguments
      callDatum run callee (argumentList arguments plain named)

def evaluateItems (run : Runner) : List Expr → Scenic (List Datum)
  | [] => return []
  | e :: es => do
      let item ← evaluate run e
      return item :: (← evaluateItems run es)

def evaluateEntries (run : Runner) : List (Expr × Expr) → Scenic (List (Datum × Datum))
  | [] => return []
  | (key, value) :: entries => do
      let key ← evaluate run key
      let value ← evaluate run value
      return (key, value) :: (← evaluateEntries run entries)

def evaluateBound (run : Runner) : Option Expr → Scenic Datum
  | none => return .null
  | some e => evaluate run e

def evaluateOption (run : Runner) : Option Expr → Scenic Datum
  | none => return .undefined
  | some e => evaluate run e

def evaluatePlain (run : Runner) : List (Form × Expr) → Scenic (List Datum)
  | [] => return []
  | (.plain, e) :: arguments => do
      let value ← evaluate run e
      return value :: (← evaluatePlain run arguments)
  | (.spread, e) :: arguments => do
      let values ← Scenic.items (← evaluate run e)
      return values ++ (← evaluatePlain run arguments)
  | _ :: arguments => evaluatePlain run arguments

def evaluateNamed (run : Runner) : List (Form × Expr) → Scenic (List (Datum × Datum))
  | [] => return []
  | (.named name, e) :: arguments => do
      let value ← evaluate run e
      return (.ofText name, value) :: (← evaluateNamed run arguments)
  | (.spreadNamed, e) :: arguments => do
      match (← Scenic.current (← evaluate run e)).entries? with
      | some entries => return entries ++ (← evaluateNamed run arguments)
      | none => throw .argument
  | _ :: arguments => evaluateNamed run arguments
end

/-! ## Statements -/

mutual
def assign (run : Runner) (value : Datum) : Target → Scenic Unit
  | .name name => Scenic.store name value
  | .member container name => do Scenic.setMember (← evaluate run container) name value
  | .several targets => do
      let items ← Scenic.items value
      if items.length = targets.length then assignAll run items targets else throw .operation

def assignAll (run : Runner) (items : List Datum) : List Target → Scenic Unit
  | [] => return ()
  | target :: targets => do
      match items with
      | [] => throw .operation
      | item :: items => do
          assign run item target
          assignAll run items targets
end

def eachItem {α : Type} (place : Nat) (act : Datum → Scenic α) (index : Nat)
    (previous : Option Datum) : List Datum → Scenic (List α)
  | [] => return []
  | item :: items => do
      modify fun scene => { scene with loops := scene.loops.modify place fun state =>
        { state with index := index, previous := previous, next := items.head? } }
      let result ← act item
      return result :: (← eachItem place act (index + 1) (some item) items)

def inLoop {α : Type} (visible : Bool) (again : Option (Target × List Statement)) (source : Datum)
    (act : Datum → Scenic α) : Scenic (List α) := do
  let source ← Scenic.current source
  let items ← Scenic.items source
  let scene ← get
  let place := scene.loops.size
  set { scene with
    loops := scene.loops.push ⟨0, source.size?, scene.loopDepth, none, none, none⟩ }
  Scenic.inFrame { Frame.empty with loop := some ⟨place, visible, again⟩ }
    (eachItem place act 0 none items)

def insert (source : Datum) (optional : Bool) : Scenic Unit := do
  let source ← Scenic.current source
  let names := match source.text?, source.items? with
    | none, some items => if source.isAbsent then [source] else items
    | _, _ => [source]
  if !names.all fun name => name.text?.isSome then throw .argument
  else if !optional && !names.isEmpty then throw .missingTemplate
  else return ()

def filterText (run : Runner) (chain : Expr) (text : String) : Scenic Datum := do
  let captured ← Scenic.printedText text
  modify fun scene => { scene with captured := captured }
  evaluate run chain

def printedDatum (value : Datum) : Scenic String := do
  let value ← Scenic.seen value
  return if (← get).escaping then value.escaped else value.printed

def escapingFor : Datum → Except Fault Bool
  | .text "html" _ => .ok true
  | .text "none" _ => .ok false
  | .text _ _ => .error .argument
  | value => .ok (value.equals (.bool true))

mutual
def render (run : Runner) : Statement → Scenic String
  | .data text => return text
  | .print e => do printedDatum (← evaluate run e)
  | .choose condition yes no => do
      if ← Scenic.holds (← evaluate run condition) then renderAll run yes else renderAll run no
  | .each target source condition recursive body no => do
      let source ← evaluate run source
      let source ← match condition with
        | none => pure source
        | some condition => do
            let kept ← inLoop false none source fun item => do
              assign run item target
              return if ← Scenic.holds (← evaluate run condition) then some item else none
            pure (Datum.ofItems (kept.filterMap id))
      let again := if recursive then some (target, body) else none
      let texts ← inLoop true again source fun item => do
        assign run item target
        renderAll run body
      if texts.isEmpty then renderAll run no else return String.join texts
  | .within bindings body => do
      Scenic.inFrame Frame.empty do
        for (target, e) in bindings do
          assign run (← evaluate run e) target
        renderAll run body
  | .assign target e => do
      assign run (← evaluate run e) target
      return ""
  | .capture target chain body => do
      let text ← renderAll run body
      let value ← match chain with
        | some chain => filterText run chain text
        | none => Scenic.printedText text
      assign run value target
      return ""
  | .escaping e body => do
      let escaping ← escapingFor (← evaluate run e)
      let before := (← get).escaping
      modify fun scene => { scene with escaping := escaping }
      let text ← renderAll run body
      modify fun scene => { scene with escaping := before }
      return text
  | .filtered chain body => do
      let text ← renderAll run body
      printedDatum (← filterText run chain text)
  | .block name _ => callBlock run name
  | .insertion source optional => do
      insert (← evaluate run source) optional
      return ""
  | .extension source => do
      let _ ← evaluate run source
      throw .missingTemplate
  | .importAs source target => do
      insert (← evaluate run source) false
      assign run (.map []) target
      return ""
  | .importNames source names => do
      insert (← evaluate run source) false
      let found ← names.mapM fun (name, _) => evaluate run (.binding name)
      assignAll run found (names.map (·.2))
      return ""
  | .define name parameters defaults body => do
      Scenic.store name (← Scenic.makeRoutine name parameters defaults body)
      return ""
  | .callWith callee arguments parameters defaults body => do
      let caller ← Scenic.makeRoutine callerName parameters defaults body
      printedDatum (← evaluate run (.call callee (arguments ++ [(.named callerName, .constant caller)])))
  | .perform e => do
      let _ ← evaluate run e
      return ""

def renderAll (run : Runner) : List Statement → Scenic String
  | [] => return ""
  | statement :: others => do
      let text ← render run statement
      return text ++ (← renderAll run others)
end

/-! ## Routines -/

def Routine.reversed (routine : Routine) : List (String × Option Expr) :=
  let defaults := routine.defaults.reverse.map some
  let names := routine.parameters.reverse
  names.zip (defaults ++ List.replicate (names.length - defaults.length) none)

/-- The arguments of a routine by parameter. Each is given once at most, and each has a parameter. -/
def Routine.bind (routine : Routine) (given : List Datum) : Except Fault Bindings := do
  let (plain, options) := Options.split given
  let named (name : String) : Option Datum := options.find? name
  let known := routine.parameters ++ (if routine.takesCaller then [callerName] else [])
  if routine.parameters.length < plain.length then .error .argument
  else
    let twice := (routine.parameters.take plain.length).any fun name => (named name).isSome
    options.only known
    if twice then .error .argument
    else
      let rest := routine.parameters.drop plain.length
      let values := plain ++ rest.map fun name => (named name).getD .undefined
      let caller :=
        if routine.takesCaller then [(callerName, (named callerName).getD .undefined)] else []
      return caller ++ routine.parameters.zip values

/-- Assigns the parameters, the last one first. A default stands in for what is undefined; it is
evaluated where only later parameters are known. -/
def bindParameters (run : Runner) (values : Bindings) : List (String × Option Expr) → Scenic Unit
  | [] => return ()
  | (name, default?) :: others => do
      let value := (values.lookup name).getD .undefined
      let value ← match default? with
        | some e => if value.isUndefined then evaluate run e else pure value
        | none => pure value
      Scenic.store name value
      bindParameters run values others

def runRoutine (run : Runner) (routine : Routine) (given : List Datum) : Scenic Datum := do
  let values ← routine.bind given
  let scene ← get
  let outer := scene.depth + Scenic.routineDepth
  let base := { Frame.empty with backdrop := (scene.frames.getLast?.map Frame.backdrop).getD .nothing }
  let own := { Frame.empty with
    bindings := if routine.takesCaller then values.take 1 else []
    backdrop := .surroundings routine.surroundings }
  if Scenic.depthBound < outer + 2 then throw .tooDeep
  else
    set { scene with frames := [own, base], outer := outer, blocks := [] }
    let parameters := if routine.takesCaller then values.drop 1 else values
    bindParameters run parameters routine.reversed
    let text ← renderAll run routine.body
    modify fun after => { after with
      frames := scene.frames, outer := scene.outer, blocks := scene.blocks }
    Scenic.printedText text

def runLoop (run : Runner) (target : Target) (body : List Statement) (source : Datum) :
    Scenic String := do
  let texts ← inLoop true (some (target, body)) source fun item => do
    assign run item target
    renderAll run body
  return String.join texts

def runner : Nat → Runner
  | 0 => ⟨fun _ _ => throw .tooDeep, fun _ => throw .tooDeep, fun _ _ _ => throw .tooDeep⟩
  | levels + 1 =>
      let run := runner levels
      ⟨runRoutine run, renderAll run, runLoop run⟩

def renderText (source : String) (bindings : Bindings) : Except Fault String := do
  let body ← read source
  let (text, _) ← (renderAll (runner (Scenic.depthBound + 2)) body).run (Scene.start bindings body)
  return text

end Signpost.Template
