import Signpost.Proofs.Act
import Signpost.Navigator.Launch

/-! What navigation asks of its host leaves the session as it is.

Only moves, anchors and pending input change a session. Everything else a command does is an
exchange with the host, and the results of those exchanges are never moves. -/

namespace Signpost

/-- The refusal of an act that needs a document which cannot be had. -/
def LoadError.refusal : LoadError → DispatchError
  | notFound path => .documentNotFound path
  | invalid path message => .load path message

namespace Navigator

open Act

variable {World : Type} (n : Navigator World) {course : Course World}

theorem load_still (path : String) : (n.load path).Still := by
  refine Still.bind (Still.ask _ _) fun loaded => ?_
  rcases loaded with (path | ⟨path, message⟩) | document
  · exact Still.refuse _
  · exact Still.refuse _
  · exact Still.pure _

theorem load_run (path : String) (course : Course World) :
    n.load path course =
      ((n.host.load path course.world).1.mapError fun error => .refused error.refusal,
        { course with
          world := (n.host.load path course.world).2
          log := .loaded path :: course.log }) := by
  unfold load
  rcases answered : n.host.load path course.world with ⟨(_ | _) | document, world⟩ <;>
    simp only [bind, Act.bind, Act.ask, answered] <;> rfl

theorem load_ends (path : String) : (n.load path).Ends := by
  intro course
  rw [load_run]
  cases (n.host.load path course.world).1 <;> nofun

theorem check_still (predicate : String) : (n.check predicate).Still :=
  Still.bind Still.session fun _ => Still.ask _ _

theorem render_still (view : Menu.View) : (n.render view).Still := Still.ask _ _

theorem display_still (payload : Payload) : (n.display payload).Still := Still.ask _ _

theorem prompt_still (message : String) : (n.prompt message).Still := Still.ask _ _

theorem request_still (request : Request) : (n.request request).Still :=
  Still.bind Still.session fun _ => Still.bind (Still.ask _ _) fun _ => Still.pure _

theorem currentDocument_still : n.currentDocument.Still := by
  refine Still.bind Still.session fun session => ?_
  cases session.location? with
  | none => exact Still.refuse _
  | some location => exact Still.bind (n.load_still _) fun _ => Still.pure _

theorem currentDocument_of_nowhere (nowhere : course.session.location? = none) :
    n.currentDocument course = (.error (.refused .noDocument), course) := by
  unfold currentDocument
  rw [bind_ok session_run, nowhere]
  rfl

theorem currentDocument_of_location {location : Location}
    (located : course.session.location? = some location) :
    n.currentDocument course =
      (n.load location.path >>= fun document => pure (document, location.block)) course := by
  unfold currentDocument
  rw [bind_ok session_run, located]

theorem currentBlock_still : n.currentBlock.Still := by
  refine Still.bind n.currentDocument_still fun found => ?_
  dsimp only
  split
  · exact Still.pure _
  · exact Still.refuse _

theorem currentBlock_ends : n.currentBlock.Ends := by
  refine .bind (.bind (fun _ => ok_ne_exhausted _) fun session => ?_) fun found => ?_
  · cases session.location? with
    | none => exact .refuse _
    | some location => exact .bind (n.load_ends _) fun _ => .pure _
  · dsimp only
    split
    · exact .pure _
    · exact .refuse _

theorem start_ends (path : String) : (n.start path).Ends := by
  refine .bind (n.load_ends path) fun document => ?_
  split
  · exact .refuse _
  · exact .bind (fun _ => ok_ne_exhausted _) fun _ => .bind (fun _ => ok_ne_exhausted _) fun _ => .pure _

theorem authorize_still (path : String) (permission : Option String) :
    (n.authorize path permission).Still := by
  cases permission with
  | none => exact Still.pure _
  | some predicate =>
    refine Still.bind (n.check_still predicate) fun granted => ?_
    cases granted with
    | false => exact Still.refuse _
    | true => exact Still.pure _

/-- The target of a link is found, or refused, before the session moves. -/
theorem linkTarget_still (written : String) : (n.linkTarget written).Still := by
  refine Still.bind Still.session fun session => ?_
  cases Link.read written with
  | error => exact Still.refuse _
  | ok link =>
    refine Still.bind (n.authorize_still _ _) fun _ => ?_
    refine Still.bind (n.load_still _) fun document => ?_
    split
    next block named =>
      split
      · exact Still.pure _
      · exact Still.refuse _
    next unnamed =>
      split
      · exact Still.pure _
      · exact Still.refuse _

theorem isBlocking_still : (isBlocking : Act World Bool).Still :=
  Still.bind Still.session fun _ => Still.pure _

theorem isBlocking_blocking (mode : course.session.mode = .blocking) :
    isBlocking course = (.ok true, course) := by
  change (Except.ok (course.session.mode == .blocking), course) = _
  rw [mode]
  rfl

theorem isBlocking_nonBlocking (mode : course.session.mode = .nonBlocking) :
    isBlocking course = (.ok false, course) := by
  change (Except.ok (course.session.mode == .blocking), course) = _
  rw [mode]
  rfl

theorem plainValue_still (text : String) : (n.plainValue text).Still := by
  refine Still.bind n.currentDocument_still.attempt fun found => ?_
  rcases found with error | ⟨document, block⟩
  · exact Still.pure _
  · dsimp only
    split
    · exact Still.pure _
    · split <;> exact Still.pure _

theorem menuSource_still (items : Value) : (n.menuSource items).Still := by
  unfold menuSource
  split
  · refine Still.bind (n.request_still _) fun reply => ?_
    rcases reply with reason | (value | message | _) <;> exact Still.pure _
  · exact Still.pure _

end Navigator

end Signpost
