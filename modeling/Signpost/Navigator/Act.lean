import Signpost.Host

/-! The steps of a navigation.

An act reads and changes a session, asks the host and logs each request. When it halts, what it has
changed so far stays; taking a change back is itself an act. -/

namespace Signpost

/-- Why an act ends without a result: it is refused, or its bounds are used up. -/
inductive Halt where
  | refused (error : DispatchError)
  | exhausted
deriving DecidableEq, Repr, Inhabited

/-- The state of a navigation. The log holds the latest event first. -/
structure Course (World : Type) where
  session : Session
  world : World
  log : List Event := []

def Act (World α : Type) : Type := Course World → Except Halt α × Course World

namespace Act

variable {World α β : Type}

protected def pure (a : α) : Act World α := fun course => (.ok a, course)

protected def bind (act : Act World α) (next : α → Act World β) : Act World β := fun course =>
  match act course with
  | (.ok a, course) => next a course
  | (.error halt, course) => (.error halt, course)

instance : Monad (Act World) where
  pure := Act.pure
  bind := Act.bind

def refuse (error : DispatchError) : Act World α := fun course =>
  (.error (.refused error), course)

def exhaust : Act World α := fun course => (.error .exhausted, course)

def attempt (act : Act World α) : Act World (Except DispatchError α) := fun course =>
  match act course with
  | (.ok a, course) => (.ok (.ok a), course)
  | (.error (.refused error), course) => (.ok (.error error), course)
  | (.error .exhausted, course) => (.error .exhausted, course)

def session : Act World Session := fun course => (.ok course.session, course)

def setSession (session : Session) : Act World Unit := fun course =>
  (.ok (), { course with session := session })

def modifySession (change : Session → Session) : Act World Unit := fun course =>
  (.ok (), { course with session := change course.session })

def ask (request : StateM World α) (event : α → Event) : Act World α := fun course =>
  let (answer, world) := request course.world
  (.ok answer, { course with world := world, log := event answer :: course.log })

def note (event : Event) : Act World Unit := fun course =>
  (.ok (), { course with log := event :: course.log })

/-- Runs an act; if it is refused, the session is put back to what it was before. -/
def restoring (act : Act World α) : Act World α := fun course =>
  match act course with
  | (.error halt, after) => (.error halt, { after with session := course.session })
  | result => result

end Act

end Signpost
