import Signpost.Session

/-! Named functions that documents call. -/

namespace Signpost

abbrev Function := List Value → Session → Reply

structure Functions where
  entries : List (String × Function) := []

namespace Functions

def names (f : Functions) : List String := f.entries.map (·.1)

def contains (f : Functions) (name : String) : Bool := (f.entries.lookup name).isSome

/-- Adds a function; one of the same name is replaced in its place. -/
def register (f : Functions) (name : String) (function : Function) : Functions :=
  let rec put : List (String × Function) → List (String × Function)
    | [] => [(name, function)]
    | (other, old) :: rest =>
        if other = name then (other, function) :: rest else (other, old) :: put rest
  ⟨put f.entries⟩

def echo : Function
  | [], _ => .ok .null
  | [value], _ => .ok value
  | values, _ => .ok (.arr values)

def fail : Function
  | .str message :: _, _ => .failed message
  | _, _ => .failed "function failed"

def env (environment : String → Option String) : Function
  | .str name :: _, _ => .ok (.ofText? (environment name))
  | _, _ => .failed "env needs a variable name"

def builtin (environment : String → Option String) : Functions :=
  ⟨[("echo", echo), ("fail", fail), ("env", env environment)]⟩

def invoke (f : Functions) (name : String) (args : Value) (session : Session) : Reply :=
  match f.entries.lookup name with
  | some function => function (positional args) session
  | none => .failed ("unknown function '" ++ name ++ "'")

end Functions

end Signpost
