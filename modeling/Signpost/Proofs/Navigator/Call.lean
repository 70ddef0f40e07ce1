import Signpost.Navigator.Dispatch
import Signpost.Proofs.Act

/-! What a client may ask of a session, and the sessions that asking leads to.

Between two calls anything outside the session may change: the documents, the permissions, the
collaborators and their world. A call may also be refused, or never end within its bounds. -/

namespace Signpost

inductive Call where
  | start (path : String)
  | dispatch (key : String) (value : Value)
  | dispatchKey (key : String)
  | launch (command : Command)
  | resume (line : String)
  | goBack

/-- Whether the call launches commands. The others open a document or step back. -/
def Call.launches : Call → Bool
  | start _ | goBack => false
  | dispatch .. | dispatchKey _ | launch _ | resume _ => true

/-- Makes a call. An opened document is a move to its entrance. -/
def Navigator.perform {World : Type} (n : Navigator World) : Call → Act World Outcome
  | .start path => return .relocated (← n.start path)
  | .dispatch key value => n.dispatch key value
  | .dispatchKey key => n.dispatchKey key
  | .launch command => n.launch command
  | .resume line => n.resume line
  | .goBack => n.goBack

theorem Navigator.perform_start {World : Type} (n : Navigator World) (path : String)
    (course : Course World) : (n.perform (.start path) course).2 = (n.start path course).2 := by
  rcases started : n.start path course with ⟨halt | location, after⟩
  · exact congrArg Prod.snd (Act.bind_error started)
  · exact congrArg Prod.snd (Act.bind_ok started)

/-- The sessions that permitted calls lead to, beginning with a new session of anyone. -/
inductive Reached (permitted : {World : Type} → Navigator World → Call → Prop) :
    Session → Prop where
  | new (mode : Mode) (identity : Identity) :
      Reached permitted { Session.new mode with identity := identity }
  | call {World : Type} (n : Navigator World) (course : Course World) (call : Call) :
      Reached permitted course.session → permitted n call →
        Reached permitted (n.perform call course).2.session

def Navigator.performAll {World : Type} (n : Navigator World) :
    List Call → Course World → Course World
  | [], course => course
  | call :: calls, course => n.performAll calls (n.perform call course).2

theorem Navigator.performAll_concat {World : Type} (n : Navigator World) (calls : List Call)
    (call : Call) (course : Course World) :
    n.performAll (calls ++ [call]) course = (n.perform call (n.performAll calls course)).2 := by
  induction calls generalizing course with
  | nil => rfl
  | cons first calls ih => exact ih (n.perform first course).2

theorem Reached.run {permitted : {World : Type} → Navigator World → Call → Prop} {World : Type}
    (n : Navigator World) {calls : List Call} {course : Course World}
    (reached : Reached permitted course.session) (allowed : ∀ call ∈ calls, permitted n call) :
    Reached permitted (n.performAll calls course).session := by
  induction calls generalizing course with
  | nil => exact reached
  | cons call calls ih =>
    exact ih (.call n course call reached (allowed call (List.mem_cons_self ..)))
      fun other later => allowed other (List.mem_cons_of_mem call later)

end Signpost
