import Signpost.Collaborators
import Signpost.Config
import Signpost.Document.Directory
import Signpost.Resource
import Signpost.Table
import Signpost.Terminal
import Signpost.Workflow

/-! A project: a directory of documents, tables and resources with its settings.

Its services answer from the files of the project; at the terminal, the user answers too. -/

namespace Signpost

structure Project where
  root : String
  config : Config
  /-- The variables of the environment. -/
  environment : List (String × String) := []
  /-- The time of everything that happens. -/
  time : Timestamp := .epoch

namespace Project

/-- What a project works on: its files, the input that is still to be read, and what was written
for the user and what was written beside it: questions and complaints. -/
structure Surroundings where
  files : FileTree
  input : Text.Bytes := []
  output : String := ""
  messages : String := ""
  /-- Whether a question has met the end of the input. -/
  starved : Bool := false
deriving Inhabited

/-- The surroundings of a navigation. An overflow stops the program: the session and the surroundings
as they are then are kept, and what the navigation makes of it afterwards does not count. -/
structure World extends Surroundings where
  stopped : Option (Session × Surroundings) := none
deriving Inhabited

def openAt (files : FileTree) (root : String) (environment : List (String × String))
    (time : Timestamp) : Except ConfigError Project :=
  match Config.load files (Path.join root Config.fileName) with
  | .ok config => .ok ⟨root, config.resolve root, environment, time⟩
  | .error e => .error e

variable (project : Project)

def load (path : String) : StateM World (Except LoadError Document) := fun world =>
  (Document.load world.files project.config.documentsDirectory path, world)

def workflowSettings : Workflow.Settings where
  timeout := project.config.workflowTimeout * 1000
  outputLimit := project.config.outputLimit

def runWorkflow (files : FileTree) (value : Value) : Except Workflow.Error Reply × FileTree :=
  let (result, after) :=
    Workflow.run project.workflowSettings (files.startingAt project.root) value
  (result, { after with start := files.start })

/-- An answer without talk; a chain of messages is the reason why there is no reply. -/
def answerOf (reply : Except (List String) Reply) : Answer :=
  ⟨match reply with
    | .ok reply => .ok reply
    | .error chain => .error (Text.join ": " chain), []⟩

def invoke (request : Request) (session : Session) : StateM World Answer := fun world =>
  match request.collaborator with
  | .workflows =>
      let (result, files) := project.runWorkflow world.files request.args
      (answerOf (result.mapError Workflow.Error.chain), { world with files := files })
  | .data =>
      match Table.invoke project.config.dataDirectory request.name request.args world.files with
      | (.error .overflow, files) =>
          -- the reply stands for none: what follows it is not looked at any more
          let world := { world with files := files }
          (⟨.ok .abort, []⟩,
            { world with stopped := world.stopped.or (session, world.toSurroundings) })
      | (result, files) =>
          (answerOf (result.mapError Table.Error.chain), { world with files := files })
  | .resources =>
      let result := Resource.read project.root world.files request.args
      (answerOf (result.mapError FileFault.chain), world)
  | .functions | .dialogs => (⟨.ok Dialog.unsupported, []⟩, world)

def services : Host World :=
  Host.withFunctions
    { load := project.load
      check := fun predicate identity => return Authorizer.grants predicate identity
      render := fun _ => return ()
      display := fun _ => return ()
      prompt := fun _ => return none
      invoke := project.invoke
      now := fun _ => project.time }
    (Functions.builtin fun name => project.environment.lookup name)

def write (text : String) : StateM World Unit := fun world =>
  ((), { world with output := world.output ++ text })

def writeBeside (text : String) : StateM World Unit := fun world =>
  ((), { world with messages := world.messages ++ text })

def prompt (message : String) : StateM World (Option String) := fun world =>
  let (line, rest) := Terminal.readLine world.input
  (line, { world with
    input := rest
    messages := world.messages ++ Terminal.promptText message
    starved := world.starved || world.input.isEmpty })

def terminal : Host World :=
  Host.withDialogs
    { project.services with
      render := fun view => write view.text
      display := fun payload => write (Terminal.text payload)
      prompt := prompt }
    Patience.ample.rounds

def navigator (host : Host World) : Navigator World :=
  ⟨project.config.settings, host, .ample⟩

end Project

end Signpost
