import Mathlib.Logic.Function.Basic
import Signpost.Server

/-! Requests that are served at the same time.

A request takes a few steps, and between two of them others take theirs. A session is looked up in one
step and worked on in a later one, so a request may still hold a session whose number has been given up.
There is no limit to the requests, and any of them may come next. -/

namespace Signpost.Server

def vacant (project : Project) (files : FileTree) : Server := { project := project, files := files }

/-- How far a request has come. -/
inductive Stage where
  /-- A new session is about to open its first document. -/
  | creating (path : String)
  | started (location : Location)
  | numbered (location : Location) (number : Nat)
  /-- The session is kept under its number. -/
  | stored (location : Location) (number : Nat)
  | seeking (number : Nat) (operation : Operation)
  /-- The session that this request has opened has been found. -/
  | holding (opener : Nat) (operation : Operation)
  | answered (response : Response)

namespace Stage

def ofInquiry : Inquiry → Stage
  | .create path _ => creating path
  | .visit number operation => seeking number operation

def response? : Stage → Option Response
  | stored location number => some (created number location)
  | answered response => some response
  | _ => none

def number? : Stage → Option Nat
  | numbered _ number | stored _ number => some number
  | _ => none

def opened? : Stage → Option (Except Response Location)
  | started location | numbered location _ | stored location _ => some (.ok location)
  | answered response => some (.error response)
  | _ => none

def works? (request : Nat) : Stage → Option Nat
  | creating _ => some request
  | holding opener _ => some opener
  | _ => none

def work (server : Server) (session : Session) : Stage → Stage × Session × FileTree
  | creating path =>
      let (result, session, files) := server.enter session path
      match result with
      | .ok location => (started location, session, files)
      | .error response => (answered response, session, files)
  | holding _ operation =>
      let (response, session, files) := server.operate session operation
      (answered response, session, files)
  | stage => (stage, session, server.files)

end Stage

/-- A server with the requests that it is serving. A session is identified by the request that has
opened it. -/
structure Traffic where
  files : FileTree
  nextNumber : Nat := 1
  /-- The sessions that can be looked up by their numbers. -/
  table : Nat → Option Nat := fun _ => none
  sessions : Nat → Session
  stages : Nat → Stage

namespace Traffic

def arriving (files : FileTree) (inquiries : Nat → Inquiry) : Traffic where
  files := files
  sessions request :=
    match inquiries request with
    | .create _ identity => newSession identity
    | .visit .. => newSession {}
  stages request := .ofInquiry (inquiries request)

def setStage (t : Traffic) (request : Nat) (stage : Stage) : Traffic :=
  { t with stages := Function.update t.stages request stage }

variable (project : Project)

def effect (t : Traffic) (request opener : Nat) : Stage × Session × FileTree :=
  (t.stages request).work (vacant project t.files) (t.sessions opener)

def work (t : Traffic) (request opener : Nat) : Traffic :=
  let (stage, session, files) := t.effect project request opener
  { t with files := files, sessions := Function.update t.sessions opener session }.setStage request stage

def advance (t : Traffic) (request : Nat) : Traffic :=
  match t.stages request with
  | .creating _ => t.work project request request
  | .started location =>
      { t with nextNumber := numberAfter t.nextNumber }.setStage request
        (.numbered location t.nextNumber)
  | .numbered location number =>
      { t with table := Function.update t.table number (some request) }.setStage request
        (.stored location number)
  | .seeking number operation =>
      match t.table number with
      | none => t.setStage request (.answered (unknownSession number))
      | some opener =>
          -- a session that is closed loses its number at once, and is worked on later
          { t with
            table := if operation.closes then Function.update t.table number none else t.table
          }.setStage request (.holding opener operation)
  | .holding opener _ => t.work project request opener
  | .stored .. | .answered _ => t

def run (t : Traffic) (schedule : List Nat) : Traffic := schedule.foldl (advance project) t

end Traffic

end Signpost.Server
