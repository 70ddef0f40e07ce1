import Signpost.Check
import Signpost.CommandLine.Arguments
import Signpost.Navigator.Walk
import Signpost.Project
import Signpost.Project.Scaffold
import Signpost.Session.File

/-! The program: its tasks on a project.

A task reads and changes the files, writes its output, and writes questions and complaints beside
it. How it went shows in its exit code. -/

namespace Signpost.CommandLine

open Project (World)

inductive ExitCode where
  | ok
  /-- The settings, the document or something else is not as it should be. -/
  | invalid
  /-- The user has left, or the input has ended. -/
  | aborted
  /-- There is no such document or block. -/
  | notFound
  /-- A permission is missing. -/
  | forbidden
  /-- The arguments cannot be read. -/
  | misuse
  /-- The program was stopped by an overflow. -/
  | crashed
deriving DecidableEq, Repr, Inhabited

def ExitCode.number : ExitCode → Nat
  | ok => 0
  | invalid => 1
  | aborted => 2
  | notFound => 3
  | forbidden => 4
  | misuse => 2
  | crashed => 101

def ExitCode.ofError (error : DispatchError) : ExitCode :=
  match error.kind with
  | .notFound => notFound
  | .permissionDenied => forbidden
  | _ => invalid

abbrev Run := StateM World ExitCode

def say (line : String) : StateM World Unit := Project.write (line ++ "\n")

def succeed (line : String) : Run := do
  say line
  return .ok

def complain (code : ExitCode) (chain : List String) : Run := do
  Project.writeBeside (Text.join ": " chain ++ "\n")
  return code

structure Setting where
  environment : List (String × String) := []
  time : Timestamp := .epoch

def withProject (setting : Setting) (root : String) (task : Project → Run) : Run := fun world =>
  match Project.openAt world.files root setting.environment setting.time with
  | .ok project => task project world
  | .error e => complain .invalid e.chain world

def scaffold (root : String) (force : Bool) : Run := fun world =>
  match Project.scaffold world.files root force with
  | (.ok paths, files) =>
      succeed ("initialized " ++ paths.config) { world with files := files }
  | (.error e, files) => complain .invalid e.chain { world with files := files }

def check (project : Project) (path : String) : Run := do
  match ← project.load path with
  | .error (.notFound path) => complain .notFound [(LoadError.notFound path).message]
  | .error error => complain .invalid ["load document", error.message]
  | .ok document =>
      match Check.problems document with
      | [] => succeed (path ++ ": ok")
      | problems =>
          problems.forM fun problem => say (path ++ ": " ++ problem.text)
          return .invalid

def link (project : Project) (written start : String) : Run := fun world =>
  match Location.read start with
  | .error error => complain .invalid ["parse --from", error.message] world
  | .ok location =>
      let session : Session :=
        { Session.new .nonBlocking with identity := ⟨none, Identity.roleSet project.config.roles⟩ }
      let session := session.relocate location "link" project.time
      let navigator := project.navigator project.services.withoutDialogs
      match navigator.linkTarget written { session := session, world := world } with
      | (.ok target, course) => succeed target.text course.world
      | (.error (.refused error), course) => complain (.ofError error) [error.message] course.world
      | (.error .exhausted, course) => (.aborted, course.world)

def reportWalk : Except Halt (Except Navigator.WalkError Navigator.Summary) → Run
  | .ok (.ok ⟨.finished, _⟩) => return .ok
  | .ok (.ok ⟨.aborted, _⟩) => return .aborted
  | .ok (.ok ⟨.stepLimit limit, _⟩) => do
      Project.writeBeside ("stopped after " ++ toString limit ++ " steps\n")
      return .ok
  | .ok (.error error) =>
      complain ((error.cause?.map ExitCode.ofError).getD .invalid) error.chain
  | .error (.refused error) => complain (.ofError error) [error.message]
  | .error .exhausted => return .aborted

def finishWalk (sessionFile : Option String) (session : Session)
    (ended : Except Halt (Except Navigator.WalkError Navigator.Summary)) : Run := fun world =>
  match sessionFile with
  | none => reportWalk ended world
  | some file =>
      match session.save world.files file with
      | (none, files) => reportWalk ended { world with files := files }
      | (some fault, files) => complain .invalid fault.chain { world with files := files }

/-- Walks a session at the terminal: from its location if it has one, else from the start of a
document. -/
def walk (project : Project) (path : String) (sessionFile : Option String) (session : Session) :
    Run := fun world =>
  let start := if session.location?.isSome then none else some path
  let navigator := project.navigator project.terminal
  let (ended, course) :=
    navigator.walk start project.config.maxSteps { session := session, world := world }
  match course.world.stopped with
  | some (_, there) => complain .crashed Table.Error.overflow.chain { toSurroundings := there }
  | none => finishWalk sessionFile course.session ended course.world

def run (setting : Setting) (project : Project) (path : String) (sessionFile : Option String) :
    Run := fun world =>
  let identity : Identity :=
    ⟨setting.environment.lookup "USER", Identity.roleSet project.config.roles⟩
  let attached (session : Session) : Session := { session with identity := identity }
  match sessionFile with
  | none => walk project path none (attached (Session.new .blocking)) world
  | some file =>
      match Session.load world.files file .blocking with
      | .error problem => complain .invalid problem.chain world
      | .ok saved =>
          walk project path (some file) (attached (saved.getD (Session.new .blocking))) world

def perform (setting : Setting) (invocation : Invocation) : Run :=
  let withProject := withProject setting invocation.root
  match invocation.task with
  | .scaffold force => scaffold invocation.root force
  | .run path sessionFile => withProject fun project => run setting project path sessionFile
  | .check path => withProject fun project => check project path
  | .link written start => withProject fun project => link project written start

def program (setting : Setting) (arguments : List String) : Run := do
  match request arguments with
  | .invoke invocation => perform setting invocation
  | .usage task =>
      Project.write (usage task)
      return .ok
  | .version =>
      Project.write versionText
      return .ok
  | .misuse =>
      Project.writeBeside (usage none)
      return .misuse

end Signpost.CommandLine
