import Signpost.Proofs.Library
import Signpost.Proofs.Navigator.Request

/-! Following a link, all that can come of it.

The link is read, its permission is asked for, its document is loaded, its block is looked for, and
only then the session moves. Each of the first four may put an end to it, and each leaves the session
alone. -/

namespace Signpost.Navigator

open Act

variable {World : Type} (n : Navigator World)

def checking (permission : Option String) (course : Course World) : Course World :=
  match permission with
  | none => course
  | some predicate =>
      let asked := n.host.check predicate course.session.identity course.world
      { course with world := asked.2, log := .checked predicate asked.1 :: course.log }

def loading (path : String) (course : Course World) : Course World :=
  { course with
    world := (n.host.load path course.world).2
    log := .loaded path :: course.log }

def entrance (document : Document) (block : Option String) : Except String String :=
  match block with
  | some block => if document.hasBlock block then .ok block else .error block
  | none =>
      match document.defaultBlock? n.settings.defaultBlock with
      | some block => .ok block
      | none => .error n.settings.defaultBlock

def arriving (written : String) (location : Location) (course : Course World) : Course World :=
  { course with
    session := course.session.relocate location ("link " ++ written) (n.host.now course.world) }

/-- What following a link comes to, and the course afterwards. -/
inductive Follows (written : String) (course : Course World) :
    Except Halt Location → Course World → Prop where
  | unreadable {error : LinkError} : Link.read written = .error error →
      Follows written course (.error (.refused (.invalidLink error))) course
  | denied {link : Link} {predicate : String} : Link.read written = .ok link →
      link.permission = some predicate →
      (n.host.check predicate course.session.identity course.world).1 = false →
      Follows written course
        (.error (.refused (.permissionDenied (link.resolve (course.session.path.getD "/")) predicate)))
        (n.checking link.permission course)
  | unloaded {link : Link} {path : String} {error : LoadError} : Link.read written = .ok link →
      (∀ predicate, link.permission = some predicate →
        (n.host.check predicate course.session.identity course.world).1 = true) →
      path = link.resolve (course.session.path.getD "/") →
      Follows written course (.error (.refused error.refusal))
        (n.loading path (n.checking link.permission course))
  | closed {link : Link} {path block : String} {document : Document} :
      Link.read written = .ok link →
      (∀ predicate, link.permission = some predicate →
        (n.host.check predicate course.session.identity course.world).1 = true) →
      path = link.resolve (course.session.path.getD "/") →
      (n.host.load path (n.checking link.permission course).world).1 = .ok document →
      n.entrance document link.block = .error block →
      Follows written course (.error (.refused (.blockNotFound path block)))
        (n.loading path (n.checking link.permission course))
  | arrived {link : Link} {path block : String} {document : Document} :
      Link.read written = .ok link →
      (∀ predicate, link.permission = some predicate →
        (n.host.check predicate course.session.identity course.world).1 = true) →
      path = link.resolve (course.session.path.getD "/") →
      (n.host.load path (n.checking link.permission course).world).1 = .ok document →
      n.entrance document link.block = .ok block →
      Follows written course (.ok ⟨path, block⟩)
        (n.arriving written ⟨path, block⟩ (n.loading path (n.checking link.permission course)))

variable {n} {written : String} {course : Course World}

theorem hasBlock_of_entrance {document : Document} {named : Option String} {block : String}
    (entered : n.entrance document named = .ok block) : document.hasBlock block = true := by
  unfold entrance at entered
  split at entered
  next =>
    split at entered
    next present =>
      cases entered
      exact present
    next => cases entered
  next =>
    split at entered
    next found =>
      cases entered
      exact Document.hasBlock_of_defaultBlock found
    next => cases entered

@[simp] theorem checking_session (permission : Option String) :
    (n.checking permission course).session = course.session := by
  cases permission <;> rfl

theorem linkTarget_of_error {error : LinkError} (read : Link.read written = .error error) :
    n.linkTarget written course = (.error (.refused (.invalidLink error)), course) := by
  unfold linkTarget
  rw [bind_ok session_run, read]
  rfl

theorem check_run (predicate : String) (course : Course World) :
    n.check predicate course = (.ok (n.host.check predicate course.session.identity course.world).1,
      n.checking (some predicate) course) := rfl

theorem authorize_of_denied {predicate : String} (path : String)
    (denied : (n.host.check predicate course.session.identity course.world).1 = false) :
    n.authorize path (some predicate) course =
      (.error (.refused (.permissionDenied path predicate)), n.checking (some predicate) course) := by
  have asked := n.check_run predicate course
  rw [denied] at asked
  exact bind_ok asked

theorem authorize_of_granted {permission : Option String} (path : String)
    (granted : ∀ predicate, permission = some predicate →
      (n.host.check predicate course.session.identity course.world).1 = true) :
    n.authorize path permission course = (.ok (), n.checking permission course) := by
  cases permission with
  | none => rfl
  | some predicate =>
    have asked := n.check_run predicate course
    rw [granted predicate rfl] at asked
    exact bind_ok asked

theorem linkTarget_of_link {link : Link} (read : Link.read written = .ok link) {path : String}
    (resolved : path = link.resolve (course.session.path.getD "/")) :
    n.linkTarget written course = (n.authorize path link.permission >>= fun _ =>
      n.load path >>= fun document =>
        match n.entrance document link.block with
        | .ok block => pure ⟨path, block⟩
        | .error block => Act.refuse (.blockNotFound path block)) course := by
  subst resolved
  unfold linkTarget
  rw [bind_ok session_run, read]
  refine congrFun (congrArg (_ >>= ·) (funext fun _ => congrArg (_ >>= ·) (funext fun document => ?_)))
    course
  unfold entrance
  cases link.block with
  | some block => dsimp only; split <;> rfl
  | none => dsimp only; cases document.defaultBlock? n.settings.defaultBlock <;> rfl

theorem followLink_error {halt : Halt} {after : Course World}
    (halted : n.linkTarget written course = (.error halt, after)) :
    n.followLink written course = (.error halt, after) := bind_error halted

theorem followLink_denied {link : Link} {predicate : String} (read : Link.read written = .ok link)
    (asked : link.permission = some predicate)
    (denied : (n.host.check predicate course.session.identity course.world).1 = false) :
    n.followLink written course =
      (.error (.refused (.permissionDenied (link.resolve (course.session.path.getD "/")) predicate)),
        n.checking (some predicate) course) := by
  refine followLink_error ((linkTarget_of_link read rfl).trans ?_)
  rw [asked]
  exact bind_error (authorize_of_denied _ denied)

section Granted

variable {link : Link} {path block : String} {document : Document}
  (read : Link.read written = .ok link)
  (granted : ∀ predicate, link.permission = some predicate →
    (n.host.check predicate course.session.identity course.world).1 = true)
  (resolved : path = link.resolve (course.session.path.getD "/"))

include read granted resolved

theorem followLink_unloaded {error : LoadError}
    (answer : (n.host.load path (n.checking link.permission course).world).1 = .error error) :
    n.followLink written course = (.error (.refused error.refusal),
      n.loading path (n.checking link.permission course)) := by
  have loaded := n.load_run path (n.checking link.permission course)
  rw [answer] at loaded
  have target := n.linkTarget_of_link read resolved
  rw [bind_ok (authorize_of_granted _ granted), bind_error loaded] at target
  exact followLink_error target

theorem linkTarget_loaded
    (answer : (n.host.load path (n.checking link.permission course).world).1 = .ok document) :
    n.linkTarget written course =
      (match n.entrance document link.block with
        | .ok block => pure ⟨path, block⟩
        | .error block => Act.refuse (.blockNotFound path block) : Act World Location)
      (n.loading path (n.checking link.permission course)) := by
  have loaded := n.load_run path (n.checking link.permission course)
  rw [answer] at loaded
  have target := n.linkTarget_of_link read resolved
  rwa [bind_ok (authorize_of_granted _ granted), bind_ok loaded] at target

theorem followLink_closed
    (answer : (n.host.load path (n.checking link.permission course).world).1 = .ok document)
    (missing : n.entrance document link.block = .error block) :
    n.followLink written course = (.error (.refused (.blockNotFound path block)),
      n.loading path (n.checking link.permission course)) := by
  have target := linkTarget_loaded read granted resolved answer
  rw [missing] at target
  exact followLink_error target

theorem followLink_arrived
    (answer : (n.host.load path (n.checking link.permission course).world).1 = .ok document)
    (entered : n.entrance document link.block = .ok block) :
    n.followLink written course = (.ok ⟨path, block⟩,
      n.arriving written ⟨path, block⟩ (n.loading path (n.checking link.permission course))) := by
  have target := linkTarget_loaded read granted resolved answer
  rw [entered] at target
  exact bind_ok target

end Granted

theorem followLink_follows (written : String) (course : Course World) :
    n.Follows written course (n.followLink written course).1 (n.followLink written course).2 := by
  cases read : Link.read written with
  | error error =>
    rw [followLink_error (linkTarget_of_error read)]
    exact .unreadable read
  | ok link =>
    by_cases granted : ∀ predicate, link.permission = some predicate →
        (n.host.check predicate course.session.identity course.world).1 = true
    · cases answer : (n.host.load (link.resolve (course.session.path.getD "/"))
          (n.checking link.permission course).world).1 with
      | error error =>
        rw [followLink_unloaded read granted rfl answer]
        exact .unloaded read granted rfl
      | ok document =>
        cases entered : n.entrance document link.block with
        | error block =>
          rw [followLink_closed read granted rfl answer entered]
          exact .closed read granted rfl answer entered
        | ok block =>
          rw [followLink_arrived read granted rfl answer entered]
          exact .arrived read granted rfl answer entered
    · obtain ⟨predicate, asked, denied⟩ : ∃ predicate, link.permission = some predicate ∧
          (n.host.check predicate course.session.identity course.world).1 = false := by
        simpa using granted
      rw [followLink_denied read asked denied, ← asked]
      exact .denied read asked denied

theorem of_followLink {result : Except Halt Location} {after : Course World}
    (ran : n.followLink written course = (result, after)) : n.Follows written course result after := by
  have follows := n.followLink_follows written course
  rwa [ran] at follows

end Signpost.Navigator
