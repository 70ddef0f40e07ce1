import Signpost.Template.Statement
import Signpost.Template.Filter

/-! The state of a rendering.

Names are looked up in frames, the innermost one first. A frame belongs to a section with names of its
own, to a loop or to a running routine. What is shared between names (namespaces, loops, routines and the
surroundings of routines) lies in tables, and data refer to it by its place. -/

namespace Signpost.Template

inductive Backdrop where
  | nothing
  | given (bindings : Bindings)
  /-- The surroundings of a routine. -/
  | surroundings (place : Nat)
deriving Inhabited, Repr

structure LoopFrame where
  place : Nat
  visible : Bool
  again : Option (Target × List Statement)
deriving Inhabited, Repr

structure Frame where
  bindings : Bindings
  backdrop : Backdrop
  /-- The surroundings that routines of this frame share. -/
  surroundings : Option Nat
  loop : Option LoopFrame
deriving Inhabited, Repr

def Frame.empty : Frame := ⟨[], .nothing, none, none⟩

structure LoopState where
  index : Nat
  length : Option Nat
  depth : Nat
  previous : Option Datum
  next : Option Datum
  /-- What the loop was last asked about for changes. -/
  noted : Option (List Datum)
deriving Inhabited, Repr

structure Routine where
  name : String
  parameters : List String
  defaults : List Expr
  body : List Statement
  surroundings : Nat
  takesCaller : Bool
deriving Inhabited, Repr

structure Scene where
  frames : List Frame
  /-- The frames that count besides `frames`: those around a running routine. -/
  outer : Nat
  /-- Whether printed data are escaped for marked-up text. -/
  escaping : Bool
  /-- The text that a chain of filters applies to. -/
  captured : Datum
  blocks : List (String × List Statement)
  surroundings : Array Bindings
  spaces : Array Bindings
  loops : Array LoopState
  routines : Array Routine
deriving Inhabited, Repr

abbrev Scenic := StateT Scene (Except Fault)

namespace LoopState

def bindings (state : LoopState) : Bindings :=
  let behind (n : Nat) : Datum := match state.length with
    | some length => .nat (length - n)
    | none => .undefined
  [("index0", .nat state.index), ("index", .nat (state.index + 1)), ("length", behind 0),
    ("revindex", behind state.index), ("revindex0", behind (state.index + 1)),
    ("first", .bool (state.index == 0)), ("last", .bool state.next.isNone),
    ("depth", .nat (state.depth + 1)), ("depth0", .nat state.depth),
    ("previtem", state.previous.getD .undefined), ("nextitem", state.next.getD .undefined)]

def shown (state : LoopState) : String :=
  "<loop " ++ toString state.index ++ "/" ++ (state.length.map toString).getD "?" ++ ">"

end LoopState

namespace Routine

def bindings (routine : Routine) : Bindings :=
  [("name", .ofText routine.name), ("arguments", .ofItems (routine.parameters.map .ofText)),
    ("caller", .bool routine.takesCaller)]

def shown (routine : Routine) : String := "<macro " ++ routine.name ++ ">"

end Routine

mutual
def Datum.refreshed (view : Reference → Option (Option String × List (Datum × Datum))) :
    Datum → Datum
  | .list items names => .list (refreshedItems view items) names
  | .stream items sized => .stream (refreshedItems view items) sized
  | .map entries => .map (refreshedEntries view entries)
  | .options entries => .options (refreshedEntries view entries)
  | .object reference shown entries =>
      match view reference with
      | some (shown, entries) => .object reference shown entries
      | none => .object reference shown entries
  | value => value

def refreshedItems (view : Reference → Option (Option String × List (Datum × Datum))) :
    List Datum → List Datum
  | [] => []
  | item :: items => item.refreshed view :: refreshedItems view items

def refreshedEntries (view : Reference → Option (Option String × List (Datum × Datum))) :
    List (Datum × Datum) → List (Datum × Datum)
  | [] => []
  | (key, value) :: entries => (key, value.refreshed view) :: refreshedEntries view entries
end

namespace Scene

def view? (scene : Scene) (reference : Reference) : Option (Option String × Bindings) :=
  match reference with
  | .space place => scene.spaces[place]?.map fun bindings => (none, bindings)
  | .loop place => scene.loops[place]?.map fun state => (some state.shown, state.bindings)
  | .routine place =>
      scene.routines[place]?.map fun routine => (some routine.shown, routine.bindings)
  | .function _ => none

def entriesOf (reference : Reference) (bindings : Bindings) : List (Datum × Datum) :=
  match reference with
  | .space _ => Datum.ofEntries bindings.entries
  | _ => bindings.entries

def refresh (scene : Scene) : (depth : Nat) → Datum → Datum
  | 0, value => value
  | depth + 1, value =>
      value.refreshed fun reference =>
        (scene.view? reference).map fun (shown, bindings) =>
          (shown, (entriesOf reference bindings).map fun (key, value) =>
            (key, refresh scene depth value))

def viewDepth : Nat := 8

def functionNames : List String := ["range", "dict", "debug", "namespace"]

def function? (name : String) : Option Datum :=
  if functionNames.contains name then some (.object (.function name) (some "<function>") [])
  else none

def backdropFind? (scene : Scene) (backdrop : Backdrop) (name : String) : Option Datum :=
  let found := match backdrop with
    | .nothing => none
    | .given bindings => bindings.lookup name
    | .surroundings place => (scene.surroundings[place]?).bind fun bindings => bindings.lookup name
  found.filter fun value => !value.isUndefined

def frameFind? (scene : Scene) (name : String) (frame : Frame) : Option Datum :=
  match frame.bindings.lookup name with
  | some value => some value
  | none =>
      match frame.loop.filter fun loop => loop.visible && name == "loop" with
      | some loop => some (.object (.loop loop.place) none [])
      | none => scene.backdropFind? frame.backdrop name

def find? (scene : Scene) (name : String) : Option Datum :=
  (scene.frames.findSome? (scene.frameFind? name)).or (function? name)

def depth (scene : Scene) : Nat := scene.outer + scene.frames.length

def store (scene : Scene) (name : String) (value : Datum) : Scene :=
  match scene.frames with
  | [] => scene
  | frame :: frames =>
      let shared := match frame.surroundings with
        | some place => scene.surroundings.modify place (·.put name value)
        | none => scene.surroundings
      { scene with
        frames := { frame with bindings := frame.bindings.put name value } :: frames
        surroundings := shared }

def loop? (scene : Scene) : Option LoopFrame := scene.frames.findSome? Frame.loop

def loopDepth (scene : Scene) : Nat :=
  match scene.loop? with
  | some loop =>
      if loop.again.isSome then ((scene.loops[loop.place]?.map LoopState.depth).getD 0) + 1 else 0
  | none => 0

def start (bindings : Bindings) (body : List Statement) : Scene :=
  { frames := [{ Frame.empty with backdrop := .given bindings }]
    outer := 0
    escaping := false
    captured := .undefined
    blocks := blocksOf body
    surroundings := #[]
    spaces := #[]
    loops := #[]
    routines := #[] }

end Scene

namespace Scenic

def depthBound : Nat := 500

def routineDepth : Nat := 4

def seen (value : Datum) : Scenic Datum := return (← get).refresh Scene.viewDepth value

def current (value : Datum) : Scenic Datum :=
  match value with
  | .object _ _ _ => seen value
  | value => return value

def holds (value : Datum) : Scenic Bool := return (← current value).holds

def store (name : String) (value : Datum) : Scenic Unit :=
  modify fun scene => scene.store name value

def inFrame {α : Type} (frame : Frame) (act : Scenic α) : Scenic α := do
  if depthBound < (← get).depth then throw .tooDeep
  else
    modify fun scene => { scene with frames := frame :: scene.frames }
    let result ← act
    modify fun scene => { scene with frames := scene.frames.tail }
    return result

def printedText (text : String) : Scenic Datum := return .text text (← get).escaping

def items (value : Datum) : Scenic (List Datum) := do
  match (← current value).items? with
  | some items => return items
  | none => throw .operation

def surroundings : Scenic Nat := do
  let scene ← get
  match scene.frames with
  | [] => throw .operation
  | frame :: frames =>
      match frame.surroundings with
      | some place => return place
      | none =>
          let place := scene.surroundings.size
          set { scene with
            frames := { frame with surroundings := some place } :: frames
            surroundings := scene.surroundings.push [] }
          return place

def enclose (place : Nat) (name : String) : Scenic Unit := do
  let scene ← get
  match (scene.surroundings[place]?).bind fun bindings => bindings.lookup name, scene.find? name with
  | none, some value =>
      set { scene with surroundings := scene.surroundings.modify place (·.put name value) }
  | _, _ => return ()

def makeRoutine (name : String) (parameters : List String) (defaults : List Expr)
    (body : List Statement) : Scenic Datum := do
  let place ← surroundings
  let names := enclosedNames parameters defaults body
  for name in names do
    if name ≠ callerName then enclose place name
  let scene ← get
  set { scene with
    routines := scene.routines.push
      ⟨name, parameters, defaults, body, place, names.contains callerName⟩ }
  return .object (.routine scene.routines.size) none []

def setMember (container : Datum) (name : String) (value : Datum) : Scenic Unit :=
  match container with
  | .object (.space place) _ _ =>
      modify fun scene => { scene with spaces := scene.spaces.modify place (·.put name value) }
  | _ => throw .operation

end Scenic

end Signpost.Template
