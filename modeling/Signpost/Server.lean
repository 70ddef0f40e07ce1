import Signpost.Navigator.Dispatch
import Signpost.Project
import Signpost.Server.Body
import Signpost.Server.Route

/-! The session server: many sessions over one project.

Sessions are numbered as they are opened, and each request touches at most the session that it
names. There is no terminal, so menus and failed required commands wait for a later request. -/

namespace Signpost

structure Server where
  project : Project
  files : FileTree
  sessions : List (Nat × Session) := []
  nextNumber : Nat := 1

namespace Server

structure Request where
  method : String
  address : String
  contentType : Option String := none
  body : String := ""
deriving DecidableEq, Repr, Inhabited

inductive Content where
  | value (value : Value)
  | text (text : String)
deriving Repr, Inhabited

structure Response where
  status : Nat
  content : Content := .text ""
deriving Repr, Inhabited

def host (server : Server) : Host Project.World := server.project.services.withoutDialogs

def navigator (server : Server) : Navigator Project.World := server.project.navigator server.host

def statusOf (kind : ErrorKind) : Nat :=
  match kind with
  | .notFound => 404
  | .permissionDenied => 403
  | _ => 422

def failed (failure : Failure) : Content := .value (Outcome.failed failure).toValue

def refused (error : DispatchError) : Response := ⟨statusOf error.kind, failed error.failure⟩

def unknownSession (number : Nat) : Response :=
  ⟨404, failed ⟨.notFound, "unknown session " ++ toString number⟩⟩

def setSession (number : Nat) (session : Session) : List (Nat × Session) → List (Nat × Session)
  | [] => [(number, session)]
  | (other, old) :: rest =>
      if other = number then (number, session) :: rest
      else (other, old) :: setSession number session rest

/-- Runs an act of a session on the files of the project. An overflow stops the act where it is, and
only the act. -/
def course {α : Type} (server : Server) (session : Session) (act : Act Project.World α) :
    Except Halt α × Session × FileTree :=
  let (result, course) := act { session := session, world := { files := server.files } }
  match course.world.stopped with
  | some (session, there) => (.error .exhausted, session, there.files)
  | none => (result, course.session, course.world.files)

def halted : Halt → Response
  | .refused error => refused error
  | .exhausted => ⟨500, .text ""⟩

/-! ## Sessions -/

def newSession (identity : Identity) : Session :=
  { Session.new .nonBlocking with identity := identity }

def enter (server : Server) (session : Session) (path : String) :
    Except Response Location × Session × FileTree :=
  let (result, session, files) := server.course session (server.navigator.start path)
  (result.mapError halted, session, files)

def blockKeys (server : Server) : Act Project.World Value := do
  let entries ← server.navigator.currentBlock
  let session ← Act.session
  return .obj [("location", .ofText? (session.location?.map Location.text)),
    ("keys", .arr ((Fields.names entries).map .str))]

def perform {α : Type} (server : Server) (session : Session) (write : α → Value)
    (act : Act Project.World α) : Response × Session × FileTree :=
  let (result, session, files) := server.course session act
  match result with
  | .ok a => (⟨200, .value (write a)⟩, session, files)
  | .error halt => (halted halt, session, files)

inductive Operation where
  | view
  | keys
  | dispatch (key : String)
  | select (line : String)
  | back
  /-- The last one; the session is no longer kept. -/
  | close
deriving DecidableEq, Repr, Inhabited

def Operation.closes : Operation → Bool
  | close => true
  | _ => false

def operate (server : Server) (session : Session) : Operation → Response × Session × FileTree
  | .view => server.perform session Session.toValue Act.session
  | .keys => server.perform session id server.blockKeys
  | .dispatch key => server.perform session Outcome.toValue (server.navigator.dispatchKey key)
  | .select line => server.perform session Outcome.toValue (server.navigator.resume line)
  | .back => server.perform session Outcome.toValue server.navigator.goBack
  | .close => (⟨204, .text ""⟩, session.teardownScope session.scope, server.files)

/-! ## Numbers -/

def created (number : Nat) (location : Location) : Response :=
  ⟨201, .value (.obj [("id", .nat number), ("location", .str location.text)])⟩

def numberAfter (number : Nat) : Nat := (number + 1) % Nat.pow 2 64

/-- Opens a document in a new session. A session that cannot start gets no number. -/
def openSession (server : Server) (path : String) (identity : Identity) : Response × Server :=
  let (result, session, files) := server.enter (newSession identity) path
  match result with
  | .error response => (response, { server with files := files })
  | .ok location =>
      let number := server.nextNumber
      (created number location,
        { server with
          files := files
          sessions := setSession number session server.sessions
          nextNumber := numberAfter number })

def inSession (server : Server) (number : Nat) (operation : Operation) : Response × Server :=
  match server.sessions.lookup number with
  | none => (unknownSession number, server)
  | some session =>
      let (response, session, files) := server.operate session operation
      (response, { server with
        files := files
        sessions :=
          if operation.closes then server.sessions.filter (·.1 != number)
          else setSession number session server.sessions })

inductive Inquiry where
  | create (path : String) (identity : Identity)
  | visit (number : Nat) (operation : Operation)
deriving DecidableEq, Repr, Inhabited

def serve (server : Server) : Inquiry → Response × Server
  | .create path identity => server.openSession path identity
  | .visit number operation => server.inSession number operation

/-! ## Requests -/

def bodyOf (request : Request) (shape : BodyShape) : Except Response Fields :=
  if !(request.contentType.bind MediaType.read?).any MediaType.holdsValue then .error ⟨415, .text ""⟩
  else match readBody shape request.body with
    | .ok fields => .ok fields
    | .error .malformed => .error ⟨400, .text ""⟩
    | .error .misshapen => .error ⟨422, .text ""⟩

def oneText (name : String) : BodyShape := { fields := [(name, .text)] }

def openShape : BodyShape :=
  { fields := [("path", .text), ("roles", .texts), ("user", .optionalText)] }

def textOf (request : Request) (name : String) : Except Response String := do
  let fields ← bodyOf request (oneText name)
  return (Fields.text? fields name).getD ""

def numberOf (written : String) : Except Response Nat :=
  match sessionNumber? written with
  | some number => .ok number
  | none => .error ⟨400, .text ""⟩

def inquiryOf (request : Request) (route : Route) : Except Response Inquiry :=
  match route, request.method with
  | .health, "GET" => .error ⟨200, .text "ok"⟩
  | .sessions, "POST" => do
      let fields ← bodyOf request openShape
      let roles := ((Fields.get? fields "roles").bind Value.items?).getD []
      return .create ((Fields.text? fields "path").getD "")
        ⟨Fields.text? fields "user", Identity.roleSet (roles.filterMap Value.text?)⟩
  | .session written, "GET" => return .visit (← numberOf written) .view
  | .session written, "DELETE" => return .visit (← numberOf written) .close
  | .block written, "GET" => return .visit (← numberOf written) .keys
  | .dispatch written, "POST" =>
      return .visit (← numberOf written) (.dispatch (← textOf request "key"))
  | .select written, "POST" =>
      return .visit (← numberOf written) (.select (← textOf request "input"))
  | .back written, "POST" => return .visit (← numberOf written) .back
  | _, _ => .error ⟨405, .text ""⟩

def answer (server : Server) (request : Request) (route : Route) : Response × Server :=
  match inquiryOf request route with
  | .ok inquiry => server.serve inquiry
  | .error response => (response, server)

/-- Answers a request. Whoever asks only for the head of an answer gets no body. -/
def handle (server : Server) (request : Request) : Response × Server :=
  match Route.ofAddress request.address with
  | none => (⟨404, .text ""⟩, server)
  | some route =>
      if request.method = "HEAD" then
        let (response, server) := server.answer { request with method := "GET" } route
        (⟨response.status, .text ""⟩, server)
      else server.answer request route

end Server

end Signpost
