import Signpost.Proofs.Navigator.Coherence
import Signpost.Proofs.Navigator.Outstanding

/-! Answers agree with what waits.

In non-blocking mode a client sees the answers, and the session keeps what they are about. No call
leaves a retry of a key that is not required, so whatever calls have been made before, the answer to
a dispatch or a resumption tells what is pending. -/

namespace Signpost

namespace Session

variable {s : Session}

def attempts? (s : Session) : Option Nat :=
  match s.pending with
  | some (.retry retry) => some retry.attempts
  | _ => none

theorem attempts?_eq_some {attempts : Nat} (waits : s.attempts? = some attempts) :
    ∃ retry, s.pending = some (.retry retry) ∧ retry.attempts = attempts := by
  unfold attempts? at waits
  split at waits
  next retry pending => exact ⟨retry, pending, Option.some.inj waits⟩
  next => cases waits

theorem stepBack_undisturbed (s : Session) (time : Timestamp) :
    Undisturbed s (s.stepBack time).2 := by
  unfold stepBack
  cases back : (s.breadcrumbs.back s.scope).1 <;> simp only [back] <;> exact ⟨rfl, rfl⟩

end Session

def Call.dispatches : Call → Bool
  | .dispatch .. | .dispatchKey _ | .resume _ => true
  | .start _ | .launch _ | .goBack => false

theorem Outcome.Rests.retry {limit : Nat} {outcome : Outcome} {waiting : Option Pending}
    (rests : outcome.Rests limit waiting) {pending : PendingRetry}
    (waits : waiting = some (.retry pending)) :
    outcome.isFailure = true ∧ pending.Due limit := by
  subst waits
  rcases rests with leaves | ⟨_, menu, same⟩
  · cases outcome with
    | failed failure =>
      rcases leaves with nothing | ⟨retry, same, due⟩
      · cases nothing
      · cases same
        exact ⟨rfl, due⟩
    | pending prompt =>
      obtain ⟨menu, same, _⟩ := leaves
      cases same
    | _ => cases leaves
  · cases same

namespace Navigator

open Act Session

variable {World : Type} (n : Navigator World) {course after : Course World} {outcome : Outcome}

/-- Opening a document drops what is pending, unless the opening is refused. -/
theorem start_rests (path : String) (course : Course World) :
    (n.start path course).2.session.mode = course.session.mode ∧
      ((n.start path course).2.session = course.session ∨
        (n.start path course).2.session.pending = none) := by
  rcases started : n.start path course with ⟨halt | location, after⟩
  · have same : after.session = course.session := n.start_undone path started
    exact ⟨congrArg Session.mode same, .inl same⟩
  · obtain ⟨document, loaded, block, _, _, _, opened⟩ := n.start_ok started
    have moved : after.session.mode = course.session.mode ∧ after.session.pending = none := by
      rw [opened]
      exact ⟨rfl, rfl⟩
    exact ⟨moved.1, .inr moved.2⟩

theorem perform_mode (call : Call) (course : Course World) :
    (n.perform call course).2.session.mode = course.session.mode := by
  by_cases launches : call.launches = true
  · have leads := n.perform_travels launches course
    rcases ran : n.perform call course with ⟨halt | outcome, after⟩
    · rw [ran] at leads
      exact (Lingers.sameFrame leads).mode
    · rw [ran] at leads
      exact leads.accounts.1.mode
  · cases call with
    | start path =>
      rw [perform_start]
      exact (n.start_rests path course).1
    | goBack => exact (stepBack_undisturbed course.session.clearPending _).1
    | _ => exact absurd rfl launches

theorem perform_rests {call : Call} (dispatches : call.dispatches = true)
    (mode : course.session.mode = .nonBlocking) (required : course.session.RetriesRequired)
    (answered : n.perform call course = (.ok outcome, after)) :
    outcome.Rests n.settings.retryLimit after.session.pending := by
  cases call with
  | dispatch key value => exact .inl (n.dispatch_leaves mode answered)
  | dispatchKey key => exact .inl (n.dispatchKey_leaves mode answered)
  | resume line => exact n.resume_rests mode required answered
  | _ => cases dispatches

theorem perform_error_pending {call : Call} (dispatches : call.dispatches = true) {halt : Halt}
    (halted : n.perform call course = (.error halt, after)) :
    after.session.pending = course.session.pending := by
  cases call with
  | dispatch key value => exact congrArg Session.pending (n.dispatch_undone key value halted)
  | dispatchKey key => exact congrArg Session.pending (n.dispatchKey_undone key halted)
  | resume line =>
    rcases n.resume_error_cases halted with same | anchored
    · exact congrArg Session.pending same
    · rw [anchored]
      exact (checkpoint_undisturbed _).2
  | _ => cases dispatches

/-- A launch without a key may leave a menu in place of what was pending. -/
theorem launch_retriesRequired (mode : course.session.mode = .nonBlocking)
    (required : course.session.RetriesRequired) (command : Command) :
    (n.launch command course).2.session.RetriesRequired := by
  have awaits : (n.launch command).Awaits :=
    .afterStill Still.session fun session => n.launchWith_awaits _ _ command
  have left := awaits course mode
  intro retry waits
  rcases ran : n.launch command course with ⟨halt | outcome, after⟩
  · rw [ran] at left waits
    exact required retry (left.2.symm.trans waits)
  · rw [ran] at left waits
    cases outcome with
    | pending prompt =>
      obtain ⟨_, menu, same, _⟩ := left
      cases same.symm.trans waits
    | _ => exact required retry (left.2.symm.trans waits)

theorem perform_retriesRequired (call : Call) (mode : course.session.mode = .nonBlocking)
    (required : course.session.RetriesRequired) :
    (n.perform call course).2.session.RetriesRequired := by
  have cleared {s : Session} (nothing : s.pending = none) : s.RetriesRequired := by
    intro retry waits
    cases nothing.symm.trans waits
  by_cases dispatches : call.dispatches = true
  · rcases ran : n.perform call course with ⟨halt | outcome, after⟩
    · intro retry waits
      exact required retry ((n.perform_error_pending dispatches ran).symm.trans waits)
    · exact fun retry waits =>
        ((n.perform_rests dispatches mode required ran).retry waits).2.required
  · cases call with
    | start path =>
      rw [perform_start]
      rcases (n.start_rests path course).2 with same | nothing
      · rw [same]
        exact required
      · exact cleared nothing
    | launch command => exact n.launch_retriesRequired mode required command
    | goBack => exact cleared (stepBack_undisturbed course.session.clearPending _).2
    | _ => exact absurd rfl dispatches

end Navigator

theorem reached_retriesRequired {permitted : {World : Type} → Navigator World → Call → Prop}
    {s : Session} (reached : Reached permitted s) (mode : s.mode = .nonBlocking) :
    s.RetriesRequired := by
  induction reached with
  | new => exact nofun
  | call n course call _ _ ih =>
    have before := (n.perform_mode call course).symm.trans mode
    exact n.perform_retriesRequired call before (ih before)

namespace Navigator

variable {World : Type} (n : Navigator World) {course after : Course World} {outcome : Outcome}

/-- In a session that calls have led to, the answer to a dispatch or a resumption agrees with what
waits: a prompt is that of the pending menu, a failure may leave a retry that is due, and otherwise
nothing is pending. -/
theorem answer_agrees {permitted : {World : Type} → Navigator World → Call → Prop}
    (reached : Reached permitted course.session) (mode : course.session.mode = .nonBlocking)
    {call : Call} (dispatches : call.dispatches = true)
    (answered : n.perform call course = (.ok outcome, after)) :
    (∀ prompt, outcome = .pending prompt → ∃ menu,
      after.session.pending = some (.menu menu) ∧ menu.key = prompt.key ∧ menu.view = prompt.view) ∧
    ((∀ prompt, outcome ≠ .pending prompt) → (∀ failure, outcome ≠ .failed failure) →
      after.session.pending = none) ∧
    (∀ retry, after.session.pending = some (.retry retry) →
      (∃ failure, outcome = .failed failure) ∧ retry.followUp.required = true ∧
      1 ≤ retry.attempts ∧
      (n.settings.retryLimit ≠ 0 → retry.attempts < n.settings.retryLimit)) := by
  have required := reached_retriesRequired reached mode
  have rests := n.perform_rests dispatches mode required answered
  refine ⟨?prompt, ?settled, ?retry⟩
  case prompt =>
    rintro prompt rfl
    obtain ⟨menu, waits, rfl⟩ := rests.resolve_right nofun
    exact ⟨menu, waits, rfl, rfl⟩
  case settled =>
    intro unasked succeeded
    cases outcome with
    | pending prompt => exact absurd rfl (unasked prompt)
    | failed failure => exact absurd rfl (succeeded failure)
    | _ => exact rests.resolve_right nofun
  case retry =>
    intro retry waits
    obtain ⟨failed, due⟩ := rests.retry waits
    cases outcome with
    | failed failure => exact ⟨⟨failure, rfl⟩, due.required, due.launched, due.within⟩
    | _ => cases failed

namespace Sample

/-- The key of the note fails whenever it is launched, and it has been launched once. -/
def refusal : List Call := [.start "/app", .dispatchKey "note"]

def newcomer : Course Script :=
  { visit .nonBlocking [] [.ok (.failed "busy")] with session := Session.new .nonBlocking }

theorem answer_agrees_refusal : ∃ outcome after retry,
    navigator.perform (.resume "") (navigator.performAll refusal newcomer) = (.ok outcome, after) ∧
      after.session.pending = some (.retry retry) ∧ (∃ failure, outcome = .failed failure) ∧
      retry.attempts = 2 ∧ retry.followUp.required = true ∧ retry.attempts < 25 := by
  have fresh : Reached (fun _ _ => True) newcomer.session := .new .nonBlocking {}
  have reached : Reached (fun _ _ => True) (navigator.performAll refusal newcomer).session :=
    fresh.run navigator fun _ _ => trivial
  have mode : (navigator.performAll refusal newcomer).session.mode = .nonBlocking := by
    decide +kernel
  have ends : (navigator.perform (.resume "")
      (navigator.performAll refusal newcomer)).1.isOk = true := by decide +kernel
  have twice : (navigator.perform (.resume "")
      (navigator.performAll refusal newcomer)).2.session.attempts? = some 2 := by decide +kernel
  obtain ⟨outcome, answered⟩ := Act.run_of_isOk ends
  obtain ⟨retry, waits, attempts⟩ := Session.attempts?_eq_some twice
  have resumes : (Call.resume "").dispatches = true := rfl
  obtain ⟨failed, required, _, within⟩ :=
    (navigator.answer_agrees reached mode resumes answered).2.2 retry waits
  exact ⟨outcome, _, retry, answered, waits, failed, attempts, required, within (by decide)⟩

end Sample

end Navigator

end Signpost
