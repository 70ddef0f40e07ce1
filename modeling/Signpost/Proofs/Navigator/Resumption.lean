import Signpost.Proofs.Navigator.Composite
import Signpost.Proofs.Navigator.NonBlocking

/-! What a refused answer leaves behind.

An answer that is refused puts pending input back. A retry and a single item take everything else
back as well, since they are one dispatch or less. Several items are several dispatches: when one of
them is refused, the anchor of one before it stays. -/

namespace Signpost

def Course.unasked {World : Type} (course : Course World) : Course World :=
  { course with session := course.session.clearPending }

def Course.pend {World : Type} (pending : Pending) (course : Course World) : Course World :=
  { course with session := course.session.setPending pending }

namespace Navigator

open Act Session

variable {World : Type} (n : Navigator World) {course mid after : Course World} {halt : Halt}

/-! ## Items -/

section Item

variable {item : Menu.Item} {outcome : Outcome}

def namedKey? (item : Menu.Item) (course : Course World) : Option (String × Value) :=
  match item.back, (n.currentDocument course).1 with
  | false, .ok (document, block) => document.lookupKey? block item.target
  | _, _ => none

def anchors (item : Menu.Item) (course : Course World) : Bool :=
  (n.namedKey? item course).any fun (written, _) => (Key.read written).2.anchor

theorem namedKey?_of_load {location : Location} {document : Document} (forth : item.back = false)
    (located : course.session.location? = some location)
    (loaded : n.load location.path course = (.ok document, mid)) :
    n.namedKey? item course = document.lookupKey? location.block item.target := by
  unfold namedKey?
  rw [forth, n.currentDocument_of_location located, bind_ok loaded]
  rfl

theorem launchItem_of_key {written : String} {command : Value}
    (named : n.namedKey? item course = some (written, command))
    (nested : String → Value → Act World Outcome) :
    n.launchItem nested item course = nested written command (n.currentDocument course).2 := by
  have found := named
  unfold namedKey? at found
  unfold launchItem
  cases back : item.back with
  | true =>
    rw [back] at found
    cases found
  | false =>
    rw [if_neg Bool.false_ne_true, bind_ok session_run]
    rw [back] at found
    cases located : course.session.location? with
    | none =>
      rw [n.currentDocument_of_nowhere located] at found
      cases found
    | some location =>
      rw [n.currentDocument_of_location located] at found ⊢
      dsimp only
      rcases loaded : n.load location.path course with ⟨halt | document, mid⟩
      · rw [bind_error loaded] at found
        cases found
      · rw [n.namedKey?_of_load back located loaded] at named
        rw [bind_ok loaded, bind_ok loaded]
        simp only [named]
        rfl

/-- What becomes of any other item does not depend on dispatches. -/
theorem launchItem_of_no_key (unnamed : n.namedKey? item course = none)
    (nested nested' : String → Value → Act World Outcome) :
    n.launchItem nested item course = n.launchItem nested' item course := by
  unfold launchItem
  cases back : item.back with
  | true => rfl
  | false =>
    rw [if_neg Bool.false_ne_true, if_neg Bool.false_ne_true, bind_ok session_run,
      bind_ok session_run]
    cases located : course.session.location? with
    | none => rfl
    | some location =>
      dsimp only
      rcases loaded : n.load location.path course with ⟨halt | document, mid⟩
      · rw [bind_error loaded, bind_error loaded]
      · rw [n.namedKey?_of_load back located loaded] at unnamed
        simp only [bind_ok loaded, unnamed]

theorem launchItem_undone (item : Menu.Item) : (n.launchItem n.dispatch item).Undone := by
  intro course halt after halted
  cases named : n.namedKey? item course with
  | some key =>
    rw [n.launchItem_of_key named] at halted
    exact (n.dispatch_undone _ _ halted).trans (n.currentDocument_still course)
  | none =>
    rw [n.launchItem_of_no_key named n.dispatch idle] at halted
    have leads := (n.launchItem_travels eq_dwelling
      (fun key value => (idle_travels eq_dwelling key value).placed) item).of_run halted
    exact Eq.symm leads

/-- Of an item that goes through only the mark of an anchored key is left. -/
theorem launchItem_passes (mode : course.session.mode = .nonBlocking)
    (launched : n.launchItem n.dispatch item course = (.ok outcome, after))
    (goes : outcome.interrupts = false) :
    Rests (course.session.anchoredIf (n.anchors item course)) after.session := by
  unfold anchors
  cases named : n.namedKey? item course with
  | some key =>
    rw [n.launchItem_of_key named] at launched
    have same := n.currentDocument_still course
    have rests := n.dispatch_passes (same ▸ mode) launched goes
    rwa [same] at rests
  | none =>
    rw [n.launchItem_of_no_key named n.dispatch idle] at launched
    have leads :=
      (n.launchItem_travels rests_dwelling
        (fun key value => (idle_travels rests_dwelling key value).placed) item).of_run launched
    exact (Leads.of_settles (Outcome.settles_of_not_interrupts goes)).mp leads

/-- Whether one of the items, launched in order, names an anchored key when its turn comes. -/
def anchorsAmong : List Menu.Item → Course World → Bool
  | [], _ => false
  | item :: items, course =>
      n.anchors item course || anchorsAmong items (n.launchItem n.dispatch item course).2

theorem items_pass {items : List Menu.Item} (mode : course.session.mode = .nonBlocking)
    (passes : Passes (n.launchItem n.dispatch) course items after) :
    Rests (course.session.anchoredIf (n.anchorsAmong items course)) after.session := by
  induction passes with
  | nil => rfl
  | @cons course mid after item items outcome launched goes _ ih =>
    have first := n.launchItem_passes mode launched goes
    have rest := ih (first.lingers.sameFrame.mode.trans mode)
    have both := (first.anchoredIf _).trans rest
    rw [anchoredIf_anchoredIf] at both
    unfold anchorsAmong
    rw [launched]
    exact both

end Item

/-! ## Answers -/

section Answer

variable {line : String}

theorem keepingPending_ok {α : Type} {pending : Pending} {act : Act World α} {a : α}
    (ran : act course = (.ok a, after)) : keepingPending pending act course = (.ok a, after) := by
  unfold keepingPending
  rw [ran]

theorem keepingPending_error {α : Type} {pending : Pending} {act : Act World α}
    (halted : act course = (.error halt, mid)) : keepingPending pending act course =
      (.error halt, mid.pend pending) := by
  unfold keepingPending
  rw [halted]
  rfl

theorem keepingPending_fst {α : Type} (pending : Pending) (act : Act World α)
    (course : Course World) : (keepingPending pending act course).1 = (act course).1 := by
  rcases ran : act course with ⟨halt | a, mid⟩
  · rw [keepingPending_error ran]
  · rw [keepingPending_ok ran]

theorem of_keepingPending_ok {α : Type} {pending : Pending} {act : Act World α} {a : α}
    (ran : keepingPending pending act course = (.ok a, after)) : act course = (.ok a, after) := by
  rcases began : act course with ⟨stopped | b, mid⟩
  · rw [keepingPending_error began] at ran
    cases ran
  · rwa [keepingPending_ok began] at ran

theorem of_keepingPending_error {α : Type} {pending : Pending} {act : Act World α}
    (halted : keepingPending pending act course = (.error halt, after)) :
    ∃ mid, act course = (.error halt, mid) ∧
      after = mid.pend pending := by
  rcases ran : act course with ⟨stopped | a, mid⟩
  · rw [keepingPending_error ran] at halted
    cases halted
    exact ⟨mid, rfl, rfl⟩
  · rw [keepingPending_ok ran] at halted
    cases halted

theorem resume_eq : n.resume line course =
    (match course.session.pending with
      | none => pure (.refused .validation "nothing is waiting for input")
      | some (.retry pending) => n.retry pending
      | some (.menu pending) => n.answer pending line : Act World Outcome) course.unasked := by
  have clear : modifySession Session.clearPending course = (.ok (), course.unasked) := rfl
  exact (bind_ok session_run).trans (bind_ok clear)

theorem resume_of_menu {pending : PendingMenu}
    (waits : course.session.pending = some (.menu pending)) :
    n.resume line course = n.answer pending line course.unasked := by
  rw [resume_eq, waits]

/-- A retry is one launch, and a refused launch is taken back. -/
theorem retry_error {pending : PendingRetry}
    (halted : n.retry pending course = (.error halt, after)) :
    after.session = course.session.setPending (.retry pending) := by
  rcases of_bind_error halted with refused | ⟨outcome, mid, _, halted⟩
  · obtain ⟨last, stopped, rfl⟩ := of_keepingPending_error refused
    exact congrArg (·.setPending (.retry pending)) (restoring_error stopped)
  · split at halted
    · cases halted
    · split at halted <;> cases halted

theorem of_retry_ok {pending : PendingRetry} {outcome : Outcome}
    (retried : n.retry pending course = (.ok outcome, after)) :
    ∃ raw mid, n.launchWith n.dispatch pending.key pending.followUp pending.command course =
      (.ok raw, mid) := by
  obtain ⟨raw, mid, launched, _⟩ := of_bind_ok retried
  exact ⟨raw, mid, restoring_ok (of_keepingPending_ok launched)⟩

section Retry

variable {pending : PendingRetry} {outcome : Outcome}
  (launched : n.launchWith n.dispatch pending.key pending.followUp pending.command course =
    (.ok outcome, mid))

include launched

theorem retry_of_success (succeeded : outcome.isFailure = false) :
    n.retry pending course = (.ok (pending.followUp.finish outcome), mid) := by
  refine (bind_ok (keepingPending_ok (ok_restoring launched))).trans ?_
  rw [succeeded]
  rfl

/-- A launch that fails is waited for again, unless it was the last one. -/
theorem retry_of_failure (failed : outcome.isFailure = true) :
    n.retry pending course = (.ok outcome, if n.isGivenUp (pending.attempts + 1) then mid
      else mid.pend (.retry { pending with attempts := pending.attempts + 1 })) := by
  refine (bind_ok (keepingPending_ok (ok_restoring launched))).trans ?_
  rw [failed]
  cases n.isGivenUp (pending.attempts + 1) <;> rfl

end Retry

theorem answer_of_selection {pending : PendingMenu} {selection : Menu.Selection}
    (resolved : pending.view.model.resolve line = .ok selection)
    (whole : ∀ model, selection ≠ .narrowed model) :
    n.answer pending line =
      (keepingPending (.menu pending) (n.select n.dispatch selection) >>= fun outcome =>
        if pending.followUp.required && outcome.isFailure then
          Act.modifySession (fun session => session.setPending (.menu pending)) >>= fun _ =>
            pure outcome
        else pure (pending.followUp.finish outcome)) := by
  unfold answer
  rw [resolved]
  cases selection with
  | narrowed model => exact absurd rfl (whole model)
  | single | multi => rfl

/-- Only a selection is ever launched, so only a selection is ever refused. -/
theorem answer_error {pending : PendingMenu}
    (halted : n.answer pending line course = (.error halt, after)) :
    ∃ selection mid, pending.view.model.resolve line = .ok selection ∧
      n.select n.dispatch selection course = (.error halt, mid) ∧
      after = mid.pend (.menu pending) := by
  have launched {selection : Menu.Selection}
      (resolved : pending.view.model.resolve line = .ok selection)
      (whole : ∀ model, selection ≠ .narrowed model) :
      ∃ mid, n.select n.dispatch selection course = (.error halt, mid) ∧
        after = mid.pend (.menu pending) := by
    rw [n.answer_of_selection resolved whole] at halted
    rcases of_bind_error halted with refused | ⟨outcome, last, _, finished⟩
    · exact of_keepingPending_error refused
    · split at finished <;> cases finished
  -- a line that selects nothing yet launches nothing, so it cannot be refused
  cases resolved : pending.view.model.resolve line with
  | error error =>
    unfold answer at halted
    rw [resolved] at halted
    cases halted
  | ok selection =>
    cases selection with
    | narrowed model =>
      unfold answer at halted
      rw [resolved] at halted
      cases halted
    | single item =>
      obtain ⟨mid, stopped⟩ := launched resolved nofun
      exact ⟨.single item, mid, rfl, stopped⟩
    | multi items =>
      obtain ⟨mid, stopped⟩ := launched resolved nofun
      exact ⟨.multi items, mid, rfl, stopped⟩

/-- The line selects several items of a pending menu; those of `before` go through, and the next
one halts. -/
def StopsAfter (line : String) (course : Course World) (halt : Halt) (before : List Menu.Item)
    (mid : Course World) : Prop :=
  ∃ pending item rest last, course.session.pending = some (.menu pending) ∧
    pending.view.model.resolve line = .ok (.multi (before ++ item :: rest)) ∧
    Passes (n.launchItem n.dispatch) course.unasked before mid ∧
    n.launchItem n.dispatch item mid = (.error halt, last)

namespace StopsAfter

variable {n} {before : List Menu.Item}

theorem session (stops : n.StopsAfter line course halt before mid)
    (halted : n.resume line course = (.error halt, after)) :
    after.session = { mid.session with pending := course.session.pending } := by
  obtain ⟨pending, item, rest, last, waits, resolved, passes, refused⟩ := stops
  have stopped : n.select n.dispatch (.multi (before ++ item :: rest)) course.unasked =
      (.error halt, last) := passes.collectAll_error refused
  rw [n.resume_of_menu waits, n.answer_of_selection resolved nofun,
    bind_error (keepingPending_error stopped)] at halted
  cases halted
  rw [waits, ← n.launchItem_undone item refused]
  rfl

theorem trail (stops : n.StopsAfter line course halt before mid)
    (halted : n.resume line course = (.error halt, after)) :
    after.session.trail = mid.session.trail := by
  rw [stops.session halted]
  rfl

theorem lingers (stops : n.StopsAfter line course halt before mid) :
    course.unasked.session.Lingers mid.session := by
  obtain ⟨pending, item, rest, last, waits, resolved, passes, refused⟩ := stops
  exact passes.stays lingers_dwelling (n.launchItem_travels lingers_dwelling n.dispatch_travels_placed)

/-- In non-blocking mode the documents tell whether an anchor stays. -/
theorem session_nonBlocking (stops : n.StopsAfter line course halt before mid)
    (mode : course.session.mode = .nonBlocking)
    (halted : n.resume line course = (.error halt, after)) :
    after.session = course.session.anchoredIf (n.anchorsAmong before course.unasked) := by
  have restored := stops.session halted
  obtain ⟨pending, item, rest, last, waits, resolved, passes, refused⟩ := stops
  have unasked : course.unasked.session.mode = .nonBlocking := mode
  exact restored.trans (n.items_pass unasked passes).restored

end StopsAfter

theorem resume_error (halted : n.resume line course = (.error halt, after)) :
    after.session = course.session ∨ ∃ before mid, n.StopsAfter line course halt before mid := by
  rw [resume_eq] at halted
  cases waits : course.session.pending with
  | none =>
    rw [waits] at halted
    cases halted
  | some waiting =>
    rw [waits] at halted
    cases waiting with
    | retry pending =>
      refine .inl ((n.retry_error halted).trans ?_)
      change { course.session with pending := some (.retry pending) } = course.session
      rw [← waits]
    | menu pending =>
      obtain ⟨selection, last, resolved, refused, rfl⟩ := n.answer_error halted
      cases selection with
      | narrowed model => cases refused
      | single item =>
        refine .inl ((congrArg (·.setPending (.menu pending))
          (n.launchItem_undone item refused)).trans ?_)
        change { course.session with pending := some (.menu pending) } = course.session
        rw [← waits]
      | multi items =>
        obtain ⟨before, item, rest, mid, rfl, passes, stopped⟩ := of_collectAll_error refused
        exact .inr ⟨before, mid, pending, item, rest, last, waits, resolved, passes, stopped⟩

theorem resume_error_cases (halted : n.resume line course = (.error halt, after)) :
    after.session = course.session ∨ after.session = course.session.checkpoint.2 := by
  rcases n.resume_error halted with same | ⟨before, mid, stops⟩
  · exact .inl same
  · obtain ⟨anchor, rests⟩ := stops.lingers
    have restored := (stops.session halted).trans rests.restored
    cases anchor with
    | false => exact .inl restored
    | true => exact .inr restored

theorem resume_error_ne_iff (halted : n.resume line course = (.error halt, after)) :
    after.session ≠ course.session ↔ ∃ before mid,
      n.StopsAfter line course halt before mid ∧ mid.session.trail ≠ course.session.trail := by
  constructor
  · intro changed
    rcases n.resume_error halted with same | ⟨before, mid, stops⟩
    · exact absurd same changed
    · refine ⟨before, mid, stops, fun same => changed ?_⟩
      obtain ⟨anchor, rests⟩ := stops.lingers
      have restored := (stops.session halted).trans rests.restored
      have trail := stops.trail halted
      rw [restored] at trail ⊢
      exact anchoredIf_eq_self_iff.mpr (trail.trans same)
  · rintro ⟨before, mid, stops, changed⟩ same
    exact changed ((stops.trail halted).symm.trans (congrArg Session.trail same))

theorem resume_error_ne_iff_nonBlocking (mode : course.session.mode = .nonBlocking)
    (halted : n.resume line course = (.error halt, after)) :
    after.session ≠ course.session ↔
      (∃ here, course.session.location? = some here ∧ course.session.trail.getLast? ≠ some here) ∧
      ∃ before mid, n.StopsAfter line course halt before mid ∧
        n.anchorsAmong before course.unasked = true := by
  constructor
  · intro changed
    rcases n.resume_error halted with same | ⟨before, mid, stops⟩
    · exact absurd same changed
    · have anchored := stops.session_nonBlocking mode halted
      cases among : n.anchorsAmong before course.unasked with
      | false =>
        rw [among] at anchored
        exact absurd anchored changed
      | true =>
        rw [among] at anchored
        rw [anchored] at changed
        exact ⟨checkpoint_ne_self_iff.mp changed, before, mid, stops, among⟩
  · rintro ⟨away, before, mid, stops, among⟩
    rw [stops.session_nonBlocking mode halted, among]
    exact checkpoint_ne_self_iff.mpr away

/-- A refused answer leaves the session as it was, but for one anchor: it stays if an item that goes
through before the refused one sets it, where the active trail does not end with the current
location yet. -/
theorem resume_halted_session (halted : n.resume line course = (.error halt, after)) :
    (after.session = course.session ∨ after.session = course.session.checkpoint.2) ∧
    (after.session ≠ course.session ↔ ∃ before mid,
      n.StopsAfter line course halt before mid ∧ mid.session.trail ≠ course.session.trail) ∧
    (course.session.mode = .nonBlocking → (after.session ≠ course.session ↔
      (∃ here, course.session.location? = some here ∧ course.session.trail.getLast? ≠ some here) ∧
      ∃ before mid, n.StopsAfter line course halt before mid ∧
        n.anchorsAmong before course.unasked = true)) :=
  ⟨n.resume_error_cases halted, n.resume_error_ne_iff halted,
    fun mode => n.resume_error_ne_iff_nonBlocking mode halted⟩

namespace Sample

def asked : Course Script := (navigator.dispatchKey "pick" (visit .nonBlocking [] [])).2

/-- The note anchors the main block, and the item after it is refused. -/
theorem resume_halted_session_pick :
    ∃ after, navigator.resume "1,2" asked = (.error missing, after) ∧
      after.session ≠ asked.session ∧ after.session = asked.session.checkpoint.2 ∧
      ∃ before mid, navigator.StopsAfter "1,2" asked missing before mid ∧
        navigator.anchorsAmong before asked.unasked = true := by
  have refused : (navigator.resume "1,2" asked).1 = .error missing := by decide +kernel
  have longer : (navigator.resume "1,2" asked).2.session.trail ≠ asked.session.trail := by
    decide +kernel
  have waits : asked.session.mode = .nonBlocking := by decide +kernel
  have halted := run_error refused
  have changed : (navigator.resume "1,2" asked).2.session ≠ asked.session := fun same =>
    longer (congrArg Session.trail same)
  obtain ⟨equal, _, anchored⟩ := navigator.resume_halted_session halted
  exact ⟨_, halted, changed, equal.resolve_left changed, ((anchored waits).mp changed).2⟩

end Sample

end Answer

end Navigator

end Signpost
