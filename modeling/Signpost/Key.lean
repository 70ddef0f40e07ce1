/-! Decorated keys.

A key may begin with one mark (`^` returns when the action is done, `~` anchors the current
location first) and end with one (`*` opens a menu of the command, `!` repeats it until it
succeeds). A mark counts only where something of the key is left, so every key can be read. -/

namespace Signpost

inductive Leading where
  | autoReturn
  | anchor
deriving DecidableEq, Repr, Inhabited

inductive Trailing where
  | autoMenu
  | required
deriving DecidableEq, Repr, Inhabited

def Leading.mark : Leading → Char
  | autoReturn => '^'
  | anchor => '~'

def Leading.ofMark? (c : Char) : Option Leading :=
  if c = '^' then some autoReturn else if c = '~' then some anchor else none

def Trailing.mark : Trailing → Char
  | autoMenu => '*'
  | required => '!'

def Trailing.ofMark? (c : Char) : Option Trailing :=
  if c = '*' then some autoMenu else if c = '!' then some required else none

structure Decorations where
  leading : Option Leading := none
  trailing : Option Trailing := none
deriving DecidableEq, Repr, Inhabited

namespace Decorations

def isEmpty (d : Decorations) : Bool := d.leading.isNone && d.trailing.isNone

def autoReturn (d : Decorations) : Bool := d.leading == some .autoReturn

def anchor (d : Decorations) : Bool := d.leading == some .anchor

def autoMenu (d : Decorations) : Bool := d.trailing == some .autoMenu

def required (d : Decorations) : Bool := d.trailing == some .required

def decorateChars (d : Decorations) (bare : List Char) : List Char :=
  (d.leading.map Leading.mark).toList ++ bare ++ (d.trailing.map Trailing.mark).toList

def decorate (d : Decorations) (bare : String) : String :=
  String.ofList (d.decorateChars bare.toList)

end Decorations

namespace Key

def takeLeading : List Char → Option Leading × List Char
  | c :: next :: rest =>
      match Leading.ofMark? c with
      | some leading => (some leading, next :: rest)
      | none => (none, c :: next :: rest)
  | cs => (none, cs)

def takeTrailing : List Char → List Char × Option Trailing
  | [] => ([], none)
  | [c] => ([c], none)
  | c :: next :: rest =>
      match rest with
      | [] =>
          match Trailing.ofMark? next with
          | some trailing => ([c], some trailing)
          | none => ([c, next], none)
      | _ :: _ =>
          let (bare, trailing) := takeTrailing (next :: rest)
          (c :: bare, trailing)

def readChars (key : List Char) : List Char × Decorations :=
  let (leading, rest) := takeLeading key
  let (bare, trailing) := takeTrailing rest
  (bare, ⟨leading, trailing⟩)

def read (key : String) : String × Decorations :=
  let (bare, decorations) := readChars key.toList
  (String.ofList bare, decorations)

def bare (key : String) : String := (read key).1

end Key

end Signpost
