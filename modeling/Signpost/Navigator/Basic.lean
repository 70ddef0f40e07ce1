import Signpost.Navigator.Act
import Signpost.Link

/-! The navigator: its settings, its host, and the requests it makes.

Following a link checks the syntax, the permission, the document and the block, in this order, and
moves only when all of them hold. -/

namespace Signpost

structure Settings where
  density : Density := .full
  /-- How often a required command is launched before it counts as failed; zero is no limit. -/
  retryLimit : Nat := 25
  /-- The block at which documents are entered, if they have it. -/
  defaultBlock : String := "main"
deriving DecidableEq, Repr, Inhabited

/-- How long an act is pursued. Whoever waits long enough sees every act that ends. -/
structure Patience where
  /-- How deep dispatches may nest. -/
  depth : Nat
  /-- How many rounds one menu or one required command may take. -/
  rounds : Nat
  /-- How many blocks a walk may enter. -/
  visits : Nat
deriving DecidableEq, Repr, Inhabited

/-- More patience than any walk needs that ends within a lifetime. -/
def Patience.ample : Patience := ⟨Nat.pow 2 62, Nat.pow 2 62, Nat.pow 2 62⟩

structure Navigator (World : Type) where
  settings : Settings
  host : Host World
  patience : Patience

namespace Navigator

variable {World : Type} (n : Navigator World)

def load (path : String) : Act World Document := do
  let loaded ← Act.ask (n.host.load path) fun _ => .loaded path
  match loaded with
  | .ok document => return document
  | .error (.notFound path) => Act.refuse (.documentNotFound path)
  | .error (.invalid path message) => Act.refuse (.load path message)

/-- Asks whether the session's identity satisfies a predicate. -/
def check (predicate : String) : Act World Bool := do
  let session ← Act.session
  Act.ask (n.host.check predicate session.identity) fun granted => .checked predicate granted

def render (view : Menu.View) : Act World Unit :=
  Act.ask (n.host.render view) fun _ => .talked (.rendered view)

def display (payload : Payload) : Act World Unit :=
  Act.ask (n.host.display payload) fun _ => .talked (.shown payload)

def prompt (message : String) : Act World (Option String) :=
  Act.ask (n.host.prompt message) fun answer => .talked (.prompted message answer)

def request (request : Request) : Act World (Except String Reply) := do
  let session ← Act.session
  let answer ← Act.ask (n.host.invoke request session) fun answer =>
    .invoked request session.location? answer.talk
  return answer.reply

def invoke (collaborator : Collaborator) (name : String) (args : Value) : Act World Outcome := do
  match ← n.request ⟨collaborator, name, args⟩ with
  | .ok (.ok value) => return .ofValue value
  | .ok (.failed message) => return .refused .action message
  | .ok .abort => return .abort
  | .error reason => return .refused .action reason

def relocate (location : Location) (context : String) : Act World Unit := fun course =>
  (.ok (), { course with
    session := course.session.relocate location context (n.host.now course.world) })

def currentDocument : Act World (Document × String) := do
  let session ← Act.session
  match session.location? with
  | none => Act.refuse .noDocument
  | some location =>
      let document ← n.load location.path
      return (document, location.block)

def currentBlock : Act World Block := do
  let (document, block) ← n.currentDocument
  match document.block? block with
  | some entries => return entries
  | none => Act.refuse (.blockNotFound document.path block)

/-- Opens a document at its default block, in a scope named after it. -/
def start (path : String) : Act World Location := do
  let document ← n.load path
  match document.defaultBlock? n.settings.defaultBlock with
  | none => Act.refuse (.blockNotFound path n.settings.defaultBlock)
  | some block =>
      let location : Location := ⟨document.path, block⟩
      Act.modifySession fun session => session.clearPending.enterScope document.path
      n.relocate location "start"
      return location

/-- Refuses a link whose permission the session's identity lacks. -/
def authorize (path : String) : Option String → Act World Unit
  | none => return ()
  | some predicate => do
      if ← n.check predicate then return ()
      else Act.refuse (.permissionDenied path predicate)

/-- Where a link leads from the current document. The session does not move. -/
def linkTarget (written : String) : Act World Location := do
  let session ← Act.session
  match Link.read written with
  | .error error => Act.refuse (.invalidLink error)
  | .ok link =>
      let path := link.resolve (session.path.getD "/")
      n.authorize path link.permission
      let document ← n.load path
      match link.block with
      | some block =>
          if document.hasBlock block then return ⟨path, block⟩
          else Act.refuse (.blockNotFound path block)
      | none =>
          match document.defaultBlock? n.settings.defaultBlock with
          | some block => return ⟨path, block⟩
          | none => Act.refuse (.blockNotFound path n.settings.defaultBlock)

def followLink (written : String) : Act World Location := do
  let location ← n.linkTarget written
  n.relocate location ("link " ++ written)
  return location

/-- Steps back along the active trail; pending input is dropped. -/
def goBack : Act World Outcome := fun course =>
  let (destination, session) :=
    course.session.clearPending.stepBack (n.host.now course.world)
  let outcome := match destination with
    | some location => Outcome.relocated location
    | none => .empty
  (.ok outcome, { course with session := session })

end Navigator

end Signpost
