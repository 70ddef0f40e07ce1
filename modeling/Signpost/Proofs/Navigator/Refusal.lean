import Signpost.Navigator.Dispatch
import Signpost.Proofs.Navigator.Request
import Signpost.Scripted

/-! Refused acts leave the session as it was.

Opening a document, following a link and finding a key check everything before the session changes.
A dispatch may change it first: it anchors, answers menus and launches the parts of a sequence. What
it has changed by then is taken back as a whole, so nested dispatches need no argument of their
own. -/

namespace Signpost.Navigator

open Act

variable {World : Type} (n : Navigator World) {course after : Course World} {halt : Halt}

theorem start_undone (path : String) : (n.start path).Undone := by
  refine Undone.afterStill (n.load_still path) fun document => ?_
  split
  next => exact Undone.refuse _
  next =>
    intro course halt after halted
    cases halted

theorem start_ok {path : String} {location : Location}
    (started : n.start path course = (.ok location, after)) :
    ∃ document loaded block, n.load path course = (.ok document, loaded) ∧
      document.defaultBlock? n.settings.defaultBlock = some block ∧
      location = ⟨document.path, block⟩ ∧
      after.session = (course.session.clearPending.enterScope document.path).relocate location
        "start" (n.host.now loaded.world) := by
  obtain ⟨document, loaded, load, started⟩ := of_bind_ok started
  cases entrance : document.defaultBlock? n.settings.defaultBlock with
  | none =>
    rw [entrance] at started
    cases started
  | some block =>
    rw [entrance] at started
    cases started
    refine ⟨document, loaded, block, load, entrance, rfl, ?_⟩
    rw [← (n.load_still path).of_run load]

theorem start_error {path : String} (started : n.start path course = (.error halt, after)) :
    (∃ error : LoadError, halt = .refused error.refusal) ∨
      ∃ document loaded, n.load path course = (.ok document, loaded) ∧
        document.defaultBlock? n.settings.defaultBlock = none := by
  rcases of_bind_error started with failed | ⟨document, loaded, load, closed⟩
  · rw [n.load_run] at failed
    cases answer : (n.host.load path course.world).1 with
    | error error =>
      rw [answer] at failed
      cases failed
      exact .inl ⟨error, rfl⟩
    | ok document =>
      rw [answer] at failed
      cases failed
  · refine .inr ⟨document, loaded, load, ?_⟩
    cases entrance : document.defaultBlock? n.settings.defaultBlock with
    | none => rfl
    | some block =>
      rw [entrance] at closed
      cases closed

theorem followLink_undone (written : String) : (n.followLink written).Undone := by
  refine Undone.afterStill (n.linkTarget_still written) fun location => ?_
  intro course halt after halted
  cases halted

/-- Nothing is asked of the nested dispatches: whatever they have done is taken back with the
rest. -/
theorem dispatchWith_undone (nested : String → Value → Act World Outcome) (key : String)
    (value : Value) : (n.dispatchWith nested key value).Undone := by
  refine Undone.afterStill Still.session fun session => ?_
  split
  split
  next => exact Undone.refuse _
  next => exact Undone.restoring _

theorem dispatch_undone (key : String) (value : Value) : (n.dispatch key value).Undone := by
  unfold dispatch
  cases n.patience.depth with
  | zero => exact Undone.of_still fun _ => rfl
  | succ depth => exact n.dispatchWith_undone _ key value

theorem dispatchKey_undone (key : String) : (n.dispatchKey key).Undone := by
  refine Undone.afterStill n.currentDocument_still fun found => ?_
  split
  split
  next => exact Undone.refuse _
  next => exact n.dispatch_undone _ _

/-! ## A small document

The scripted host answers for it. Some of its keys get far before they are refused. -/

namespace Sample

def document : Document where
  path := "/app"
  blocks := [
    ("main", [
      ("~note!", .str "call(note)"),
      ("leave", .str "link(.end)"),
      ("gone", .str "link(./missing)"),
      ("round", .arr [.obj [("menu", .arr [.str "note"])], .str "link(./missing)"]),
      ("trip", .arr [.obj [("menu", .arr [.str "note"])], .obj [("menu", .arr [.str "leave"])]]),
      ("pick", .obj [("menu", .arr [.str "note", .str "gone"]), ("multi", .bool true)])]),
    ("end", [])]

def navigator : Navigator Script := ⟨{}, Script.host, ⟨3, 3, 3⟩⟩

/-- A user who stands in the main block after having gone back. -/
def visit (mode : Mode) (lines : List String) (replies : List (Except String Reply)) :
    Course Script where
  session := { Session.new mode with path := some "/app", block := some "main", scope := "/app" }
  world := {
    documents := [("/app", .ok document)]
    lines := lines
    replies := [((.functions, "note"), replies)] }

/-- A visit where the key fails once before it goes through. -/
def busy : Course Script :=
  visit .blocking ["x", "note"] [.ok (.failed "busy"), .ok (.ok .null)]

def missing : Halt := .refused (.documentNotFound "/missing")

end Sample

/-- Whatever stops an opening, a dispatch or a link, and however late, the session is afterwards
what it was before. -/
theorem halted_session_eq :
    (∀ path, n.start path course = (.error halt, after) → after.session = course.session) ∧
    (∀ key, n.dispatchKey key course = (.error halt, after) → after.session = course.session) ∧
    (∀ key value, n.dispatch key value course = (.error halt, after) →
      after.session = course.session) ∧
    (∀ written, n.followLink written course = (.error halt, after) →
      after.session = course.session) :=
  ⟨fun path => n.start_undone path, fun key => n.dispatchKey_undone key,
    fun key value => n.dispatch_undone key value, fun written => n.followLink_undone written⟩

open Sample in
/-- The sequence is refused at its last part, after a menu that was asked twice and an anchored key
that was launched twice. -/
theorem halted_session_eq_round :
    (∃ after, navigator.start "/missing" busy = (.error missing, after) ∧
      after.session = busy.session) ∧
    (∃ after, navigator.dispatchKey "round" busy = (.error missing, after) ∧
      after.session = busy.session) ∧
    (∃ after, navigator.dispatch "~gone" (.str "link(./missing)") busy = (.error missing, after) ∧
      after.session = busy.session) ∧
    (∃ after, navigator.followLink "./missing" busy = (.error missing, after) ∧
      after.session = busy.session) := by
  have opened : (navigator.start "/missing" busy).1 = .error missing := by decide +kernel
  have round : (navigator.dispatchKey "round" busy).1 = .error missing := by decide +kernel
  have gone : (navigator.dispatch "~gone" (.str "link(./missing)") busy).1 = .error missing := by
    decide +kernel
  have followed : (navigator.followLink "./missing" busy).1 = .error missing := by
    decide +kernel
  exact ⟨⟨_, run_error opened, navigator.halted_session_eq.1 _ (run_error opened)⟩,
    ⟨_, run_error round, navigator.halted_session_eq.2.1 _ (run_error round)⟩,
    ⟨_, run_error gone, navigator.halted_session_eq.2.2.1 _ _ (run_error gone)⟩,
    ⟨_, run_error followed, navigator.halted_session_eq.2.2.2 _ (run_error followed)⟩⟩

end Signpost.Navigator
