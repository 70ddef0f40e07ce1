import Signpost.Navigator.Dispatch

/-! Walking a session through its blocks, key by key.

A move starts again at the new block; a finished block steps back along the trail, and the walk ends
where there is nothing to go back to. -/

namespace Signpost

namespace Navigator

inductive Ending where
  | finished
  | aborted
  | stepLimit (limit : Nat)
deriving DecidableEq, Repr, Inhabited

structure Summary where
  ending : Ending
  steps : Nat
deriving DecidableEq, Repr, Inhabited

inductive WalkError where
  | start (path : String) (error : DispatchError)
  | nowhere
  | enter (location : Location) (error : DispatchError)
  | dispatch (key : String) (error : DispatchError)
deriving DecidableEq, Repr, Inhabited

def WalkError.chain : WalkError → List String
  | start path error => ["start " ++ path, error.message]
  | nowhere => ["session has no current location"]
  | enter location error => ["open " ++ location.text, error.message]
  | dispatch key error => ["dispatch '" ++ key ++ "'", error.message]

def WalkError.cause? : WalkError → Option DispatchError
  | start _ error | enter _ error | dispatch _ error => some error
  | nowhere => none

inductive Turn where
  /-- The session has moved: enter its block. -/
  | enter (steps : Nat)
  /-- The block is done: step back. -/
  | leave (steps : Nat)
  | stop (summary : Summary)
  | failed (error : WalkError)

variable {World : Type} (n : Navigator World)

/-- Dispatches the keys of a block in order. `steps` counts those dispatched before; a limit of
zero is no limit. The counter has 32 bits, and its overflow at 2 ^ 32, which stops the program, is
left out. -/
def walkBlock (limit : Nat) (location : Location) (steps : Nat) : Block → Act World Turn
  | [] => return .leave steps
  | (key, command) :: rest => do
      if limit != 0 && limit ≤ steps then return .stop ⟨.stepLimit limit, steps⟩
      let result ← Act.attempt (n.dispatch key command)
      Act.note (.stepped ⟨key, location, result⟩)
      match result with
      | .ok .empty | .ok (.pending _) => walkBlock limit location (steps + 1) rest
      | .ok (.done value) => do
          n.display (.ofValue value)
          walkBlock limit location (steps + 1) rest
      | .ok (.failed failure) => do
          n.display (.message failure.message)
          walkBlock limit location (steps + 1) rest
      | .ok (.relocated _) => return .enter (steps + 1)
      -- the keys that are left of this block are not dispatched
      | .ok .back => return .leave (steps + 1)
      | .ok .abort => return .stop ⟨.aborted, steps + 1⟩
      | .error error =>
          if error.isRecoverable then
            n.display (.message error.message)
            walkBlock limit location (steps + 1) rest
          else return .failed (.dispatch key error)

/-- Walks on from the current location. `visits` bounds the number of blocks entered. -/
def walkFrom (limit : Nat) : (visits steps : Nat) → Act World (Except WalkError Summary)
  | 0, _ => Act.exhaust
  | visits + 1, steps => do
      let session ← Act.session
      match session.location? with
      | none => return .error .nowhere
      | some location =>
          match ← Act.attempt n.currentBlock with
          | .error error => return .error (.enter location error)
          | .ok entries =>
              match ← n.walkBlock limit location steps entries with
              | .enter steps => walkFrom limit visits steps
              | .leave steps =>
                  match ← n.goBack with
                  | .relocated _ => walkFrom limit visits steps
                  | _ => return .ok ⟨.finished, steps⟩
              | .stop summary => return .ok summary
              | .failed error => return .error error

def walk (path : Option String) (limit : Nat) : Act World (Except WalkError Summary) := do
  match path with
  | none => n.walkFrom limit n.patience.visits 0
  | some path =>
      match ← Act.attempt (n.start path) with
      | .error error => return .error (.start path error)
      | .ok _ => n.walkFrom limit n.patience.visits 0

end Navigator

end Signpost
