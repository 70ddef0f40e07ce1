import Signpost.Outcome

/-! Why a dispatch is refused.

A refused dispatch leaves the session as it was. Loading errors and a missing document end a walk;
after any other one the walk goes on. -/

namespace Signpost

inductive DispatchError where
  | configuration (key reason : String)
  | documentNotFound (path : String)
  | blockNotFound (path block : String)
  | keyNotFound (block key : String)
  | permissionDenied (target predicate : String)
  | invalidLink (error : LinkError)
  | load (path message : String)
  | noDocument
deriving DecidableEq, Repr, Inhabited

namespace DispatchError

def message : DispatchError → String
  | configuration key reason => "key '" ++ key ++ "' is misconfigured: " ++ reason
  | documentNotFound path => "document '" ++ path ++ "' not found"
  | blockNotFound path block => "entry point '" ++ block ++ "' not found in '" ++ path ++ "'"
  | keyNotFound block key => "key '" ++ key ++ "' not found in block '" ++ block ++ "'"
  | permissionDenied target predicate =>
      "access to '" ++ target ++ "' denied (" ++ predicate ++ ")"
  | invalidLink error => error.message
  | load path message => "failed to load '" ++ path ++ "': " ++ message
  | noDocument => "no document is open"

def kind : DispatchError → ErrorKind
  | configuration .. | load .. | noDocument => .configuration
  | documentNotFound .. | blockNotFound .. | keyNotFound .. => .notFound
  | permissionDenied .. => .permissionDenied
  | invalidLink _ => .validation

def isRecoverable : DispatchError → Bool
  | load .. | noDocument => false
  | _ => true

def failure (e : DispatchError) : Failure := ⟨e.kind, e.message⟩

end DispatchError

end Signpost
