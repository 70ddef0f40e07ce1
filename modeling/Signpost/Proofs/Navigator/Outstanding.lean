import Signpost.Proofs.Navigator.Waiting

/-! What dispatches and answers leave pending in non-blocking mode.

Both begin with nothing pending. What waits afterwards is a menu that has been opened or, after a
failure, a retry of a required key that has launches left; an answer that fails may also put the menu
back that was to be answered. -/

namespace Signpost

/-- The key of the retry is required, and of the launches that the limit admits at least one is made
and at least one is left. -/
structure PendingRetry.Due (limit : Nat) (retry : PendingRetry) : Prop where
  required : retry.followUp.required = true
  launched : 1 ≤ retry.attempts
  within : limit ≠ 0 → retry.attempts < limit

def Session.RetriesRequired (s : Session) : Prop :=
  ∀ retry, s.pending = some (.retry retry) → retry.followUp.required = true

/-! ## What an answer tells -/

/-- What waits after a launch that began with nothing pending. A failure leaves nothing behind or a
retry that is due. -/
def Outcome.Leaves (limit : Nat) : Outcome → Option Pending → Prop
  | .pending prompt, waiting => ∃ menu, waiting = some (.menu menu) ∧ menu.prompt = prompt
  | .failed _, waiting =>
      waiting = none ∨ ∃ retry, waiting = some (.retry retry) ∧ retry.Due limit
  | _, waiting => waiting = none

namespace Outcome.Leaves

variable {limit : Nat} {outcome : Outcome} {waiting : Option Pending}

theorem of_awaits {s s' : Session} (idle : s.pending = none) (awaits : s.Awaits (.ok outcome) s') :
    outcome.Leaves limit s'.pending := by
  cases outcome with
  | pending prompt => exact awaits.2
  | failed failure => exact .inl (awaits.2.trans idle)
  | _ => exact awaits.2.trans idle

theorem of_not_interrupts (goes : outcome.interrupts = false)
    (leaves : outcome.Leaves limit waiting) : waiting = none := by
  cases outcome <;> first | exact leaves | cases goes

/-- Auto-return changes outcomes that leave nothing behind only, and only to the way back. -/
theorem finish (followUp : FollowUp) (leaves : outcome.Leaves limit waiting) :
    (followUp.finish outcome).Leaves limit waiting := by
  unfold FollowUp.finish
  split
  · cases outcome with
    | failed | abort | pending => exact leaves
    | _ => cases followUp.mode <;> exact leaves
  · exact leaves

end Outcome.Leaves

namespace Navigator

open Act Session

variable {World : Type} (n : Navigator World) {nested : String → Value → Act World Outcome}
  {course mid after : Course World} {outcome : Outcome}

theorem not_isGivenUp {attempts : Nat} (more : n.isGivenUp attempts ≠ true) :
    n.settings.retryLimit ≠ 0 → attempts < n.settings.retryLimit := by
  simpa [isGivenUp] using more

theorem launchRequired_leaves {launch : Act World Outcome} (awaits : launch.Awaits)
    {followUp : FollowUp} (required : followUp.required = true)
    (same : followUp.mode = .nonBlocking) (mode : course.session.mode = .nonBlocking)
    (idle : course.session.pending = none) {key : String} {command : Command}
    {rounds attempts : Nat}
    (ran : n.launchRequired launch key command followUp rounds attempts course =
      (.ok outcome, after)) : outcome.Leaves n.settings.retryLimit after.session.pending := by
  cases rounds with
  | zero => cases ran
  | succ rounds =>
    obtain ⟨raw, mid, launched, ran⟩ := of_bind_ok ran
    have left : raw.Leaves n.settings.retryLimit mid.session.pending :=
      .of_awaits idle (awaits.of_run mode launched)
    cases raw with
    | failed failure =>
      dsimp only at ran
      by_cases givenUp : n.isGivenUp (attempts + 1) = true
      · rw [if_pos givenUp] at ran
        cases ran
        exact left
      · rw [if_neg givenUp, if_pos same] at ran
        cases ran
        exact .inr ⟨_, rfl, required, Nat.le_add_left 1 attempts, n.not_isGivenUp givenUp⟩
    | _ =>
      cases ran
      exact left

theorem launchKey_leaves {followUp : FollowUp} (same : followUp.mode = .nonBlocking)
    (mode : course.session.mode = .nonBlocking) {key : String} {command : Command}
    (launched : n.launchKey nested key followUp command course = (.ok outcome, after)) :
    outcome.Leaves n.settings.retryLimit after.session.pending := by
  rw [launchKey_run] at launched
  obtain ⟨raw, last, attempt, finished⟩ := of_bind_ok launched
  cases finished
  have before : Undisturbed course.session.clearPending
      (course.prepared followUp.anchor).session := anchoredIf_undisturbed _ _
  have still : (course.prepared followUp.anchor).session.mode = .nonBlocking := before.1.trans mode
  have idle : (course.prepared followUp.anchor).session.pending = none := before.2
  refine Outcome.Leaves.finish followUp ?_
  split at attempt
  next required =>
    exact n.launchRequired_leaves (n.launchWith_awaits key followUp command) required same still
      idle attempt
  next => exact .of_awaits idle ((n.launchWith_awaits key followUp command).of_run still attempt)

theorem dispatch_leaves (mode : course.session.mode = .nonBlocking) {key : String} {value : Value}
    (dispatched : n.dispatch key value course = (.ok outcome, after)) :
    outcome.Leaves n.settings.retryLimit after.session.pending := by
  obtain ⟨depth, command, _, _, launched⟩ := n.of_dispatch_ok dispatched
  exact n.launchKey_leaves mode mode launched

theorem dispatchKey_leaves (mode : course.session.mode = .nonBlocking) {key : String}
    (dispatched : n.dispatchKey key course = (.ok outcome, after)) :
    outcome.Leaves n.settings.retryLimit after.session.pending := by
  obtain ⟨⟨document, block⟩, mid, found, dispatched⟩ := of_bind_ok dispatched
  have same := n.currentDocument_still.of_run found
  cases named : document.lookupKey? block key with
  | none =>
    simp only [named] at dispatched
    cases dispatched
  | some entry =>
    simp only [named] at dispatched
    exact n.dispatch_leaves (same ▸ mode) dispatched

/-! ## Items -/

theorem launchItem_mode {item : Menu.Item}
    (launched : n.launchItem n.dispatch item course = (.ok outcome, after)) :
    after.session.mode = course.session.mode :=
  ((n.launchItem_travels lingers_dwelling n.dispatch_travels_placed item).of_run
    launched).accounts.1.mode

theorem idle_yields {kind : Outcome → Prop} (key : String) (value : Value) :
    (idle key value : Act World Outcome).Yields kind :=
  Yields.of_halt fun _ => ⟨.exhausted, rfl⟩

theorem launchItem_asks (inner : ∀ key value, (nested key value).Yields (·.asks = false))
    (item : Menu.Item) : (n.launchItem nested item).Yields (·.asks = false) := by
  unfold launchItem
  split
  next => exact Yields.pure rfl
  next =>
    extract_lets asCommand
    have plain : asCommand.Yields (·.asks = false) := by
      unfold asCommand
      split
      next => exact Yields.pure rfl
      next => exact n.launchSimple_asks _
      next => exact Yields.of_halt fun _ => ⟨_, rfl⟩
    refine Yields.last fun session => ?_
    split
    next => exact plain
    next =>
      refine Yields.last fun document => ?_
      split
      next written command _ => exact inner written command
      next =>
        split
        next => exact Yields.last fun _ => Yields.pure rfl
        next => exact plain

theorem launchItem_leaves {item : Menu.Item} (mode : course.session.mode = .nonBlocking)
    (nothing : course.session.pending = none)
    (launched : n.launchItem n.dispatch item course = (.ok outcome, after)) :
    outcome.Leaves n.settings.retryLimit after.session.pending := by
  cases named : n.namedKey? item course with
  | some key =>
    rw [n.launchItem_of_key named] at launched
    have same := n.currentDocument_still course
    exact n.dispatch_leaves (same ▸ mode) launched
  | none =>
    rw [n.launchItem_of_no_key named n.dispatch idle] at launched
    have travels := n.launchItem_travels undisturbed_dwelling
      (fun key value => (idle_travels undisturbed_dwelling key value).placed)
    have asks := n.launchItem_asks fun key value => idle_yields key value
    have awaits : (n.launchItem idle item).Awaits := .quiet (travels item) (asks item)
    exact .of_awaits nothing (awaits.of_run mode launched)

theorem collectAll_leaves {items : List Menu.Item} {values : List Value}
    (mode : course.session.mode = .nonBlocking) (idle : course.session.pending = none)
    (launched : collectAll (n.launchItem n.dispatch) values items course = (.ok outcome, after)) :
    outcome.Leaves n.settings.retryLimit after.session.pending := by
  induction items generalizing course values with
  | nil =>
    cases launched
    cases values <;> exact idle
  | cons item items ih =>
    obtain ⟨raw, mid, first, launched⟩ := of_bind_ok launched
    have left := n.launchItem_leaves mode idle first
    cases goes : raw.interrupts with
    | true =>
      rw [goes] at launched
      cases launched
      exact left
    | false =>
      rw [goes] at launched
      exact ih ((n.launchItem_mode first).trans mode) (left.of_not_interrupts goes) launched

theorem select_leaves {selection : Menu.Selection} (mode : course.session.mode = .nonBlocking)
    (idle : course.session.pending = none)
    (selected : n.select n.dispatch selection course = (.ok outcome, after)) :
    outcome.Leaves n.settings.retryLimit after.session.pending := by
  cases selection with
  | single item => exact n.launchItem_leaves mode idle selected
  | multi items => exact n.collectAll_leaves mode idle selected
  | narrowed =>
    cases selected
    exact .inl idle

/-! ## Answers -/

theorem retry_leaves {pending : PendingRetry} (required : pending.followUp.required = true)
    (mode : course.session.mode = .nonBlocking) (nothing : course.session.pending = none)
    (retried : n.retry pending course = (.ok outcome, after)) :
    outcome.Leaves n.settings.retryLimit after.session.pending := by
  obtain ⟨raw, mid, launched⟩ := n.of_retry_ok retried
  have left : raw.Leaves n.settings.retryLimit mid.session.pending :=
    .of_awaits nothing ((n.launchWith_awaits _ _ _).of_run mode launched)
  cases failed : raw.isFailure with
  | false =>
    rw [n.retry_of_success launched failed] at retried
    cases retried
    exact left.finish pending.followUp
  | true =>
    rw [n.retry_of_failure launched failed] at retried
    cases retried
    by_cases givenUp : n.isGivenUp (pending.attempts + 1) = true
    · rw [if_pos givenUp]
      exact left
    · rw [if_neg givenUp]
      cases outcome with
      | failed failure =>
        exact .inr ⟨_, rfl, required, Nat.le_add_left 1 _, n.not_isGivenUp givenUp⟩
      | _ => cases failed

end Navigator

/-- What waits after a resumption: a failure may besides leave the menu that was to be answered. -/
def Outcome.Rests (limit : Nat) (outcome : Outcome) (waiting : Option Pending) : Prop :=
  outcome.Leaves limit waiting ∨
    outcome.isFailure = true ∧ ∃ menu, waiting = some (.menu menu)

namespace Navigator

open Act Session

variable {World : Type} (n : Navigator World) {course after : Course World} {outcome : Outcome}

theorem answer_rests {pending : PendingMenu} {line : String}
    (mode : course.session.mode = .nonBlocking) (nothing : course.session.pending = none)
    (answered : n.answer pending line course = (.ok outcome, after)) :
    outcome.Rests n.settings.retryLimit after.session.pending := by
  have launched {selection : Menu.Selection}
      (resolved : pending.view.model.resolve line = .ok selection)
      (whole : ∀ model, selection ≠ .narrowed model) :
      outcome.Rests n.settings.retryLimit after.session.pending := by
    rw [n.answer_of_selection resolved whole] at answered
    obtain ⟨raw, mid, selected, answered⟩ := of_bind_ok answered
    have left := n.select_leaves mode nothing (of_keepingPending_ok selected)
    by_cases again : (pending.followUp.required && raw.isFailure) = true
    · rw [if_pos again] at answered
      cases answered
      simp only [Bool.and_eq_true] at again
      exact .inr ⟨again.2, pending, rfl⟩
    · rw [if_neg again] at answered
      cases answered
      exact .inl (left.finish pending.followUp)
  cases resolved : pending.view.model.resolve line with
  | error error =>
    unfold answer at answered
    rw [resolved] at answered
    cases answered
    exact .inr ⟨rfl, pending, rfl⟩
  | ok selection =>
    cases selection with
    | narrowed model =>
      unfold answer at answered
      rw [resolved] at answered
      cases answered
      exact .inl ⟨_, rfl, rfl⟩
    | single | multi => exact launched resolved nofun

theorem resume_rests {line : String} (mode : course.session.mode = .nonBlocking)
    (required : course.session.RetriesRequired)
    (resumed : n.resume line course = (.ok outcome, after)) :
    outcome.Rests n.settings.retryLimit after.session.pending := by
  have unasked : course.unasked.session.mode = .nonBlocking := mode
  rw [resume_eq] at resumed
  cases waits : course.session.pending with
  | none =>
    rw [waits] at resumed
    cases resumed
    exact .inl (.inl rfl)
  | some waiting =>
    rw [waits] at resumed
    cases waiting with
    | retry pending =>
      change n.retry pending course.unasked = _ at resumed
      exact .inl (n.retry_leaves (required pending waits) unasked rfl resumed)
    | menu pending =>
      change n.answer pending line course.unasked = _ at resumed
      exact n.answer_rests unasked rfl resumed

end Navigator

end Signpost
