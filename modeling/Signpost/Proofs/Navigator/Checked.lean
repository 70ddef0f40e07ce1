import Signpost.Proofs.Check
import Signpost.Proofs.Navigator.Errand
import Signpost.Proofs.Navigator.Following
import Signpost.Proofs.Navigator.Grounded

/-! Documents without problems are never misconfigured.

A command is read when its key is dispatched and when its turn in a sequence comes. Dispatched keys
stand in a document, and the elements of a sequence belong to an entry of one, also where the sequence
has been left pending. So the check has seen all of them. -/

namespace Signpost

def Library.Checked (library : Library) : Prop :=
  ∀ path document, library path = .ok document → Check.problems document = []

/-- Whether all that is launched comes from the documents or has been left pending. -/
def Errand.browses : Errand → Bool
  | call (.dispatch ..) | call (.launch _) => false
  | call (.start _) | call (.dispatchKey _) | call (.resume _) | call .goBack | walk .. => true

theorem Errand.admits_of_browses {errand : Errand} (browses : errand.browses = true)
    (known : Premises) : known.Admits errand := by
  cases errand with
  | walk => trivial
  | call call => cases call <;> trivial

/-- The error does not say that a command cannot be read. -/
def DispatchError.Blameless (error : DispatchError) : Prop :=
  ∀ key reason, error ≠ .configuration key reason

theorem LoadError.refusal_blameless (error : LoadError) : error.refusal.Blameless := by
  cases error <;> nofun

namespace Library.Checked

variable {World : Type} {library : Library}

def premises (checked : library.Checked) : Premises where
  session s := ∀ pending items, s.pending = some (.retry pending) → pending.command = .sequence items →
    ∀ item ∈ items, ∃ doc, Check.commandMessages doc item = []
  document path doc := library path = .ok doc
  entry key value := ∃ doc, Check.entryMessages doc key value = []
  element value := ∃ doc, Check.commandMessages doc value = []
  entry_of_block found named member :=
    ⟨_, Check.entryMessages_of_problems (checked _ _ found) named member⟩
  element_of_entry := fun ⟨doc, clear⟩ read item member =>
    ⟨doc, Check.elements_of_commandOf _ clear read item member⟩
  element_of_list := fun ⟨doc, clear⟩ item member =>
    ⟨doc, Check.commandMessages_arr.mp clear item member⟩
  element_of_pending here waits sequence := here _ _ waits sequence

theorem not_misread (checked : library.Checked) (error : CommandError) :
    ¬checked.premises.Misread error := by
  rintro (⟨mode, key, value, ⟨doc, clear⟩, misread⟩ | ⟨value, ⟨doc, clear⟩, misread⟩)
  · exact Check.commandOf_ne_error mode clear error misread
  · exact Check.classify_of_commandMessages clear error misread

end Library.Checked

/-- No step that has been reported meanwhile has failed for a command that cannot be read. -/
def Course.StepsClear {World : Type} (course after : Course World) : Prop :=
  ∀ step error, .stepped step ∈ after.log → step.result = .error error →
    .stepped step ∈ course.log ∨ error.Blameless

namespace Course.StepsClear

variable {World : Type} {course mid after : Course World}

theorem of_log (same : after.log = course.log) : course.StepsClear after :=
  fun _ _ reported _ => .inl (same ▸ reported)

theorem trans (first : course.StepsClear mid) (second : mid.StepsClear after) :
    course.StepsClear after := by
  intro step error reported failed
  rcases second step error reported failed with earlier | blameless
  · exact first step error earlier failed
  · exact .inr blameless

theorem of_event {event : Event} (logged : after.log = event :: course.log)
    (silent : ∀ step, event ≠ .stepped step) : course.StepsClear after := by
  intro step error reported _
  rw [logged] at reported
  rcases List.mem_cons.mp reported with now | before
  · exact absurd now.symm (silent step)
  · exact .inl before

end Course.StepsClear

/-- Neither a halt nor a step that is reported is due to a command that cannot be read. -/
def Charter.blameless (World : Type) : Charter World where
  passes := Course.StepsClear
  halts course halt after := course.StepsClear after ∧ ∀ error, halt = .refused error → error.Blameless

namespace Library.Checked

open Act Navigator

variable {World : Type} {library : Library} {n : Navigator World}

theorem checking_clear (permission : Option String) (course : Course World) :
    course.StepsClear (n.checking permission course) := by
  cases permission with
  | none => exact .of_log rfl
  | some => exact .of_event rfl nofun

theorem followLink_blameless (checked : library.Checked) (written : String) :
    (n.followLink written).Honours checked.premises (Charter.blameless World) fun _ => True := by
  intro course here
  have asked (path : String) (permission : Option String) :
      course.StepsClear (n.loading path (n.checking permission course)) :=
    (checking_clear permission course).trans (.of_event rfl nofun)
  have still (permission : Option String) :
      checked.premises.session (n.checking permission course).session := by
    rwa [checking_session]
  rcases ran : n.followLink written course with ⟨result, after⟩
  cases n.of_followLink ran with
  | unreadable => exact ⟨here, .of_log rfl, nofun⟩
  | denied => exact ⟨still _, checking_clear _ course, nofun⟩
  | unloaded =>
    refine ⟨still _, asked _ _, fun error refused => ?_⟩
    cases refused
    exact LoadError.refusal_blameless _
  | closed => exact ⟨still _, asked _ _, nofun⟩
  | arrived => exact ⟨still _, trivial, asked _ _⟩

theorem roams (checked : library.Checked) (serves : n.host.Serves library) :
    (Charter.blameless World).Roams n checked.premises where
  refl course := .of_log rfl
  trans := .trans
  after passed halted := ⟨passed.trans halted.1, halted.2⟩
  foreseen course expected := ⟨.of_log rfl, fun error refused => by
    subst refused
    cases expected with
    | noDocument | blockNotFound | keyNotFound => nofun
    | unloaded error => exact error.refusal_blameless
    | misread key misread => exact absurd misread (checked.not_misread _)⟩
  restored halted := ⟨halted.1, halted.2⟩
  kept halted := ⟨halted.1, halted.2⟩
  asked event course world exchange := .of_event rfl fun step same => by
    subst same
    cases exchange
  changed _ := .of_log rfl
  loads path course document loaded := n.load_ok serves (run_ok loaded)
  cleared _ := nofun
  anchored here := by
    rw [Session.checkpoint_eq]
    exact here
  pended here waits := by
    intro pending items same sequence
    cases same
    exact waits items sequence
  followLink := followLink_blameless checked
  jump here located found present course there := ⟨there, trivial, .of_log rfl⟩
  absorbed halted := halted.1
  blamed passed tolerated := ⟨passed, fun error refused => by
    cases refused
    obtain ⟨_, _, halted⟩ := tolerated
    exact halted.2 _ rfl⟩
  noted course tolerated := by
    intro step error reported failed
    rcases List.mem_cons.mp reported with now | before
    · cases now
      obtain ⟨_, _, halted⟩ := tolerated _ failed
      exact .inr (halted.2 _ rfl)
    · exact .inl before
  opened path block here := ⟨nofun, .of_log rfl⟩
  back course here := by
    have dropped : (n.goBack course).2.session.pending = none :=
      (course.session.clearPending.stepBack_frame _).1
    refine ⟨fun pending items waits => ?_, trivial, .of_log rfl⟩
    rw [dropped] at waits
    cases waits

end Library.Checked

namespace Navigator

open Act

variable {World : Type} (n : Navigator World) {library : Library}

/-- Over documents without problems no errand ends because a command cannot be read, and no walk
reports a step that has failed for this reason. -/
theorem checked_blameless (serves : n.host.Serves library) (checked : library.Checked)
    {errands : List Errand} {errand : Errand}
    (browse : ∀ other ∈ errands ++ [errand], other.browses = true) {course after : Course World}
    {result : Except Halt Unit} (fresh : course.session.pending = none) (new : course.log = [])
    (ran : n.pursue errand (n.pursueAll errands course) = (result, after)) :
    (∀ key reason, result ≠ .error (.refused (.configuration key reason))) ∧
      ∀ step, .stepped step ∈ after.log →
        ∀ key reason, step.result ≠ .error (.configuration key reason) := by
  have roams := checked.roams serves
  have admitted (other : Errand) (member : other ∈ errands ++ [errand]) :
      checked.premises.Admits other :=
    Errand.admits_of_browses (browse other member) _
  have here : checked.premises.session course.session := by
    intro pending items waits
    rw [fresh] at waits
    cases waits
  obtain ⟨there, passed⟩ := roams.after_pursueAll
    (fun other earlier => admitted other (List.mem_append_left _ earlier)) here
  have last := roams.pursue (admitted errand (by simp))
  have clear : course.StepsClear after ∧
      ∀ key reason, result ≠ .error (.refused (.configuration key reason)) := by
    rcases result with halt | _
    · obtain ⟨_, cleared, blameless⟩ := last.of_error ran there
      refine ⟨passed.trans cleared, fun key reason same => ?_⟩
      cases same
      exact blameless _ rfl key reason rfl
    · obtain ⟨_, _, cleared⟩ := last.of_ok ran there
      exact ⟨passed.trans cleared, nofun⟩
  refine ⟨clear.2, fun step reported key reason failed => ?_⟩
  rcases clear.1 step _ reported failed with earlier | blameless
  · rw [new] at earlier
    cases earlier
  · exact blameless key reason rfl

namespace Sample

theorem library_checked : Sample.library.Checked := by
  intro path other found
  unfold Sample.library at found
  split at found
  next =>
    cases found
    decide +kernel
  next => cases found

/-- A key is launched by a walk of one step, and then the client comes back to the start. -/
def outing : List Errand := [.call (.start "/app"), .walk none 1, .call .goBack]

/-- The last walk is refused at once, for a reason of its own. -/
theorem checked_blameless_outing :
    ∃ after, reader.pursue (.walk (some "/missing") 0) (reader.pursueAll outing arrival) =
        (.error missing, after) ∧
      ∀ step, .stepped step ∈ after.log →
        ∀ key reason, step.result ≠ .error (.configuration key reason) := by
  have serves : reader.host.Serves Sample.library := Script.host.withLibrary_serves Sample.library
  have refused : (reader.pursue (.walk (some "/missing") 0) (reader.pursueAll outing arrival)).1 =
      .error missing := by
    decide +kernel
  have browse : ∀ other ∈ outing ++ [.walk (some "/missing") 0], other.browses = true := by decide
  exact ⟨_, run_error refused,
    (reader.checked_blameless serves library_checked browse rfl rfl (run_error refused)).2⟩

end Sample

end Navigator

end Signpost
