import Signpost.Proofs.Navigator.Retry
import Signpost.Proofs.Navigator.Selecting
import Signpost.Proofs.Navigator.Unaddressed

/-! Required keys that open a menu.

Where a menu is asked at once, each launch of the key makes one selection at most, and the launches
are counted as those of any required key. Where the menu is left pending, only launches that cannot
build it are counted: a selection that fails leaves the same menu pending, and nothing counts how
often that happens. -/

namespace Signpost.Navigator

open Act Session

variable {World : Type} (n : Navigator World) {course mid after : Course World}
  {select : Menu.Selection → Act World Outcome} {key : String} {followUp : FollowUp}
  {spec : MenuSpec} {outcome : Outcome} {result : Except Halt Outcome}

/-! ## One launch -/

theorem interact_hands_or_fixed (rounds : Nat) (view : Menu.View) (course : Course World) :
    (∃ selection mid, HandsOver (n.interact · rounds view) course selection mid) ∨
      ∃ result, ∀ select, n.interact select rounds view course = result := by
  induction rounds generalizing view course with
  | zero => exact .inr ⟨_, fun _ => rfl⟩
  | succ rounds ih =>
    cases read : (n.lineFor view course).1 with
    | none => exact .inr ⟨_, fun _ => n.interact_of_end read⟩
    | some line =>
      rcases view.model.selects_or_retained line with ⟨made, selects, _⟩ | ⟨left, retained, _⟩
      · exact .inl ⟨made, _, fun _ => n.interact_of_selects read selects⟩
      · have again (select : Menu.Selection → Act World Outcome) :
            n.interact select (rounds + 1) view course = n.interact select rounds
              { view with model := left } (n.told view line (n.lineFor view course).2) :=
          n.interact_of_retained read retained
        rcases ih { view with model := left } (n.told view line (n.lineFor view course).2) with
          ⟨made, last, hands⟩ | ⟨result, fixed⟩
        · exact .inl ⟨made, last, fun select => (again select).trans (hands select)⟩
        · exact .inr ⟨result, fun select => (again select).trans (fixed select)⟩

theorem openMenu_hands_or_fixed (key : String) (followUp : FollowUp) (spec : MenuSpec)
    (course : Course World) :
    (∃ selection mid, HandsOver (n.openMenu · key followUp spec) course selection mid) ∨
      ∃ result, ∀ select, n.openMenu select key followUp spec course = result := by
  obtain ⟨source, offered⟩ := n.menuSource_run spec.items course
  cases built : Menu.build source (spec.options followUp) with
  | error error =>
    obtain ⟨failure, failed⟩ := n.openMenu_of_error offered key built
    exact .inr ⟨_, failed⟩
  | ok model =>
    cases mode : course.session.mode with
    | nonBlocking => exact .inr ⟨_, fun select => n.openMenu_pending offered built mode⟩
    | blocking =>
      rcases n.interact_hands_or_fixed n.patience.rounds (n.viewOf model _)
        (n.menuSource spec.items course).2 with ⟨made, last, hands⟩ | ⟨result, fixed⟩
      · exact .inl ⟨made, last, fun select =>
          (n.openMenu_blocking offered built mode).trans (hands select)⟩
      · exact .inr ⟨result, fun select =>
          (n.openMenu_blocking offered built mode).trans (fixed select)⟩

/-- A launch of a menu: the selection that was made, if any, and what came of it. -/
structure Try where
  selection : Option Menu.Selection
  result : Except Halt Outcome

def Try.failed : Try → Bool
  | ⟨some _, .ok outcome⟩ => outcome.isFailure
  | _ => false

inductive Tries (select : Menu.Selection → Act World Outcome) (key : String) (followUp : FollowUp)
    (spec : MenuSpec) (course : Course World) : Try → Course World → Prop where
  | selects {selection : Menu.Selection} {mid after : Course World} {result : Except Halt Outcome} :
      HandsOver (n.openMenu · key followUp spec) course selection mid →
        select selection mid = (result, after) →
          Tries select key followUp spec course ⟨some selection, result⟩ after
  | fixed {after : Course World} {result : Except Halt Outcome} :
      (∀ select, n.openMenu select key followUp spec course = (result, after)) →
        Tries select key followUp spec course ⟨none, result⟩ after

theorem tries_of_openMenu (opened : n.openMenu select key followUp spec course = (result, after)) :
    ∃ selection, n.Tries select key followUp spec course ⟨selection, result⟩ after := by
  rcases n.openMenu_hands_or_fixed key followUp spec course with
    ⟨selection, mid, hands⟩ | ⟨fixed, same⟩
  · exact ⟨some selection, .selects hands ((hands select).symm.trans opened)⟩
  · obtain rfl := (same select).symm.trans opened
    exact ⟨none, .fixed same⟩

/-! ## Asking at once -/

/-- Launches of the menu one after the other. Each but the last fails, and its failure is shown. Where
bounds are used up there may be no last one. -/
inductive Journal (select : Menu.Selection → Act World Outcome) (key : String) (followUp : FollowUp)
    (spec : MenuSpec) : Course World → List Try → Course World → Prop where
  | nil (course : Course World) : Journal select key followUp spec course [] course
  | last {course after : Course World} {made : Try} :
      n.Tries select key followUp spec course made after →
        Journal select key followUp spec course [made] after
  | again {course mid after : Course World} {selection : Option Menu.Selection} {failure : Failure}
      {tries : List Try} :
      n.Tries select key followUp spec course ⟨selection, .ok (.failed failure)⟩ mid →
        Journal select key followUp spec (n.display (.message failure.message) mid).2 tries after →
          Journal select key followUp spec course
            (⟨selection, .ok (.failed failure)⟩ :: tries) after

theorem launchRequired_round {launch : Act World Outcome} {command : Command}
    (mode : followUp.mode = .blocking) (limited : n.settings.retryLimit ≠ 0)
    {rounds attempts : Nat}
    (ran : n.launchRequired launch key command followUp (rounds + 1) attempts course =
      (result, after)) :
    (launch course = (result, after) ∧
        ∀ failure, result = .ok (.failed failure) → n.settings.retryLimit ≤ attempts + 1) ∨
      ∃ failure mid, launch course = (.ok (.failed failure), mid) ∧
        attempts + 1 < n.settings.retryLimit ∧
        n.launchRequired launch key command followUp rounds (attempts + 1)
          (n.display (.message failure.message) mid).2 = (result, after) := by
  rcases launched : launch course with ⟨halt | outcome, mid⟩
  · have halted : n.launchRequired launch key command followUp (rounds + 1) attempts course =
        (.error halt, mid) := bind_error launched
    cases halted.symm.trans ran
    exact .inl ⟨rfl, fun _ same => by cases same⟩
  · rw [n.launchRequired_blocking mode launched] at ran
    cases again : n.insists (attempts + 1) outcome with
    | true =>
      rw [again, if_pos rfl] at ran
      obtain ⟨failed, admitted⟩ := Bool.and_eq_true_iff.mp again
      cases outcome with
      | failed failure =>
        have fewer : attempts + 1 < n.settings.retryLimit := by
          simpa [isGivenUp, limited] using admitted
        exact .inr ⟨failure, mid, rfl, fewer, ran⟩
      | _ => cases failed
    | false =>
      rw [again, if_neg Bool.false_ne_true] at ran
      cases ran
      refine .inl ⟨rfl, fun failure same => ?_⟩
      cases same
      simpa [insists, isGivenUp, limited, Outcome.isFailure] using again

theorem launchRequired_journal (mode : followUp.mode = .blocking)
    (limited : n.settings.retryLimit ≠ 0) {rounds attempts : Nat}
    (admitted : attempts < n.settings.retryLimit)
    (ran : n.launchRequired (n.openMenu select key followUp spec) key (.menu spec) followUp rounds
      attempts course = (result, after)) :
    ∃ tries, n.Journal select key followUp spec course tries after ∧
      attempts + tries.length ≤ n.settings.retryLimit ∧
      ∀ failure, result = .ok (.failed failure) →
        attempts + tries.length = n.settings.retryLimit ∧
          ∃ selection, tries.getLast? = some ⟨selection, result⟩ := by
  -- Before each round the limit admits one more launch, so the last one may use it up.
  induction rounds generalizing course attempts with
  | zero =>
    cases ran
    exact ⟨[], .nil _, admitted.le, fun _ same => by cases same⟩
  | succ rounds ih =>
    rcases n.launchRequired_round mode limited ran with
      ⟨opened, last⟩ | ⟨failure, mid, opened, fewer, ran⟩
    · obtain ⟨selection, made⟩ := n.tries_of_openMenu opened
      refine ⟨[⟨selection, result⟩], .last made, admitted, fun failure same => ⟨?_, selection, rfl⟩⟩
      exact Nat.le_antisymm admitted (last failure same)
    · obtain ⟨selection, made⟩ := n.tries_of_openMenu opened
      obtain ⟨tries, journal, within, ends⟩ := ih fewer ran
      refine ⟨_, .again made journal, ?_, fun failure same => ?_⟩
      · rw [List.length_cons]
        omega
      · obtain ⟨total, final, ended⟩ := ends failure same
        refine ⟨?_, final, ?_⟩
        · rw [List.length_cons]
          omega
        · rw [List.getLast?_cons, ended]
          rfl

structure RequiresMenu (key : String) (value : Value) (spec : MenuSpec) : Prop where
  required : (Key.read key).2.required = true
  classified : Command.classify value = .ok (.menu spec)

theorem finish_eq_failed {failure : Failure} (failed : followUp.finish outcome = .failed failure) :
    outcome = .failed failure := by
  unfold FollowUp.finish at failed
  split at failed
  · cases outcome with
    | failed | abort | pending => exact failed
    | empty | done | back | relocated => cases mode : followUp.mode <;> simp [mode] at failed
  · exact failed

section Dispatch

variable {value : Value} (requires : RequiresMenu key value spec)

include requires

/-- A blocking dispatch makes a bounded number of tries. When it reports a failure, it is that of
the last try, and all of them are made. -/
theorem dispatch_journal (limited : n.settings.retryLimit ≠ 0)
    (blocking : course.session.mode = .blocking)
    (ran : n.dispatch key value course = (result, after)) :
    ∃ tries last, n.Journal (n.select (n.dispatchWithin (n.patience.depth - 1))) (Key.read key).1
        ⟨(Key.read key).2, .blocking⟩ spec (course.prepared (Key.read key).2.anchor) tries last ∧
      after.world = last.world ∧ after.log = last.log ∧
      tries.countP Try.failed ≤ n.settings.retryLimit ∧
      ∀ failure, result = .ok (.failed failure) → tries.length = n.settings.retryLimit ∧
        (∃ selection, tries.getLast? = some ⟨selection, result⟩) ∧ after.session.pending = none := by
  cases deep : n.patience.depth with
  | zero =>
    have exhausted : n.dispatch key value course = (.error .exhausted, course) := by
      unfold dispatch
      rw [deep]
      rfl
    cases exhausted.symm.trans ran
    exact ⟨[], _, .nil _, rfl, rfl, Nat.zero_le _, fun _ same => by cases same⟩
  | succ depth =>
    have settled {failure : Failure} (failed : result = .ok (.failed failure)) :
        after.session.pending = none :=
      (n.dispatchWithin_settled blocking (failed ▸ ran)).2
    have whole := n.dispatch_of_required requires.required requires.classified deep blocking
    rcases launched : n.launchRequired (n.openMenu (n.select (n.dispatchWithin depth))
        (Key.read key).1 ⟨(Key.read key).2, .blocking⟩ spec) (Key.read key).1 (.menu spec)
      ⟨(Key.read key).2, .blocking⟩ n.patience.rounds 0
      (course.prepared (Key.read key).2.anchor) with ⟨raw, last⟩
    obtain ⟨tries, journal, within, used⟩ :=
      n.launchRequired_journal rfl limited (Nat.pos_of_ne_zero limited) launched
    rw [Nat.zero_add] at within used
    have counted : tries.countP Try.failed ≤ n.settings.retryLimit :=
      List.countP_le_length.trans within
    rcases raw with halt | raw
    · cases (whole.trans (error_restoring (bind_error launched))).symm.trans ran
      exact ⟨tries, last, journal, rfl, rfl, counted, fun _ same => by cases same⟩
    · cases (whole.trans (ok_restoring (bind_ok launched))).symm.trans ran
      refine ⟨tries, _, journal, rfl, rfl, counted, fun failure same => ?_⟩
      obtain rfl := finish_eq_failed (Except.ok.inj same)
      obtain ⟨total, selection, ended⟩ := used failure rfl
      exact ⟨total, ⟨selection, by rw [ended, same]⟩, settled same⟩

end Dispatch

/-! ## Left pending -/

theorem openMenu_fails_or_waits (mode : course.session.mode = .nonBlocking)
    (select : Menu.Selection → Act World Outcome) (key : String) (followUp : FollowUp)
    (spec : MenuSpec) :
    ∃ mid, mid.session = course.session ∧
      ((∃ failure, n.openMenu select key followUp spec course = (.ok (.failed failure), mid)) ∨
        ∃ menu : PendingMenu, menu.followUp = followUp ∧
          n.openMenu select key followUp spec course =
            (.ok (.pending menu.prompt), mid.pend (.menu menu))) := by
  obtain ⟨source, offered⟩ := n.menuSource_run spec.items course
  refine ⟨_, n.menuSource_still spec.items course, ?_⟩
  cases built : Menu.build source (spec.options followUp) with
  | error error =>
    obtain ⟨failure, failed⟩ := n.openMenu_of_error offered key built
    exact .inl ⟨failure, failed select⟩
  | ok model => exact .inr ⟨n.menuOf key followUp model _, rfl, n.openMenu_pending offered built mode⟩

theorem suspended_of_success {pending : PendingRetry} (went : outcome.isFailure = false) :
    n.suspended pending outcome course = course := by
  unfold suspended insists
  rw [went]
  rfl

theorem suspended_failed (limited : n.settings.retryLimit ≠ 0) {pending : PendingRetry}
    (failure : Failure) :
    n.suspended pending (.failed failure) course =
      if n.settings.retryLimit ≤ pending.attempts then course else course.pend (.retry pending) := by
  unfold suspended insists isGivenUp
  by_cases last : n.settings.retryLimit ≤ pending.attempts <;> simp [limited, last, Outcome.isFailure]

/-- The pending menu waits for the selection that a required key calls for. -/
def AwaitsSelection (key : String) (menu : PendingMenu) (s : Session) : Prop :=
  s.pending = some (.menu menu) ∧ menu.followUp = ⟨(Key.read key).2, .nonBlocking⟩

inductive Stands (key : String) (spec : MenuSpec) (calls : Nat) (s : Session) : Prop where
  /-- No launch has built the menu, and the limit admits one more. -/
  | unbuilt : s.mode = .nonBlocking → Awaited key (.menu spec) s calls →
      calls < n.settings.retryLimit → Stands key spec calls s
  | asking {menu : PendingMenu} : 0 < calls → AwaitsSelection key menu s → Stands key spec calls s

inductive Closes (key : String) (value : Value) (spec : MenuSpec) (lines : Nat → String)
    (calls : Nat) (course : Course World) : Prop where
  /-- The last launch that the limit admits does not build the menu. -/
  | givenUp {failure : Failure} {after : Course World} : Awaited key (.menu spec) course.session calls →
      calls + 1 = n.settings.retryLimit →
        n.perform (insist key value lines calls) course = (.ok (.failed failure), after) →
          after.session.pending = none → Closes key value spec lines calls course
  /-- A selection is launched and does not fail. -/
  | goesThrough {menu : PendingMenu} {line : String} {selection : Menu.Selection}
      {outcome : Outcome} {mid : Course World} : insist key value lines calls = .resume line →
        AwaitsSelection key menu course.session →
          menu.view.model.selects line = some selection →
            n.select n.dispatch selection course.unasked = (.ok outcome, mid) →
              outcome.isFailure = false → Closes key value spec lines calls course

/-- However often it has failed, a selection that fails leaves the menu pending. -/
theorem resume_of_failed {menu : PendingMenu} {line : String} {selection : Menu.Selection}
    (waits : course.session.pending = some (.menu menu))
    (required : menu.followUp.required = true)
    (selects : menu.view.model.selects line = some selection)
    (launched : n.select n.dispatch selection course.unasked = (.ok outcome, mid))
    (failed : outcome.isFailure = true) :
    n.resume line course = (.ok outcome, mid.pend (.menu menu)) := by
  obtain ⟨resolved, whole⟩ := Menu.Model.of_selects selects
  rw [n.resume_of_menu waits, n.answer_of_selection resolved whole,
    bind_ok (keepingPending_ok launched), required, failed]
  rfl

/-- Nothing but a selection that goes through ends a required menu. -/
theorem resume_required {menu : PendingMenu} (waits : course.session.pending = some (.menu menu))
    (required : menu.followUp.required = true) (line : String) :
    (∃ left, (n.resume line course).2.session.pending = some (.menu (menu.withModel left))) ∨
      ∃ selection outcome mid, menu.view.model.selects line = some selection ∧
        n.select n.dispatch selection course.unasked = (.ok outcome, mid) ∧
          outcome.isFailure = false := by
  rcases menu.view.model.selects_or_retained line with ⟨selection, selects, _⟩ | ⟨left, retained, _⟩
  · rcases launched : n.select n.dispatch selection course.unasked with ⟨halt | outcome, mid⟩
    · obtain ⟨resolved, whole⟩ := Menu.Model.of_selects selects
      have halted : n.resume line course = (.error halt, mid.pend (.menu menu)) := by
        rw [n.resume_of_menu waits, n.answer_of_selection resolved whole,
          bind_error (keepingPending_error launched)]
      refine .inl ⟨menu.view.model, ?_⟩
      rw [halted]
      rfl
    · cases failed : outcome.isFailure with
      | true =>
        refine .inl ⟨menu.view.model, ?_⟩
        rw [n.resume_of_failed waits required selects launched failed]
        rfl
      | false => exact .inr ⟨selection, outcome, mid, selects, launched, failed⟩
  · obtain ⟨outcome, resumed, _⟩ := n.resume_of_retained waits retained
    refine .inl ⟨left, ?_⟩
    rw [resumed]
    rfl

section Trial

variable {value : Value} {calls : Nat} (requires : RequiresMenu key value spec)

include requires

theorem perform_unbuilt (deep : 0 < n.patience.depth) (enough : 0 < n.patience.rounds)
    (lines : Nat → String) (remote : course.session.mode = .nonBlocking)
    (awaited : Awaited key (.menu spec) course.session calls) :
    ∃ (select : Menu.Selection → Act World Outcome) (ready : Course World),
      ready.session.pending = none ∧ ready.session.mode = .nonBlocking ∧
      ∀ {outcome : Outcome} {mid : Course World},
        n.openMenu select (Key.read key).1 ⟨(Key.read key).2, .nonBlocking⟩ spec ready =
            (.ok outcome, mid) →
          n.perform (insist key value lines calls) course =
            (.ok outcome, n.suspended (waiting key (.menu spec) (calls + 1)) outcome mid) := by
  cases calls with
  | zero =>
    obtain ⟨depth, deep⟩ := Nat.exists_eq_add_one.mpr deep
    obtain ⟨rounds, enough⟩ := Nat.exists_eq_add_one.mpr enough
    let ready := course.prepared (Key.read key).2.anchor
    have mode : ready.session.mode = .nonBlocking := (anchoredIf_undisturbed _ _).1.trans remote
    refine ⟨n.select (n.dispatchWithin depth), ready, pending_anchoredIf _, mode, ?_⟩
    intro outcome mid opened
    have waits : (⟨(Key.read key).2, .nonBlocking⟩ : FollowUp).mode = .nonBlocking := rfl
    change n.dispatch key value course = _
    rw [n.dispatch_of_required requires.required requires.classified deep remote, enough]
    refine ok_restoring ((bind_ok (n.launchRequired_nonBlocking waits opened _ rounds 0)).trans ?_)
    rw [finish_nonBlocking waits]
    rfl
  | succ calls =>
    refine ⟨n.select n.dispatch, course.unasked, rfl, remote, fun opened => ?_⟩
    change n.resume (lines calls) course = _
    rw [resume_eq, awaited]
    exact n.retry_run (finish_nonBlocking rfl _) opened

theorem trial_step (deep : 0 < n.patience.depth) (enough : 0 < n.patience.rounds)
    (lines : Nat → String) (stands : n.Stands key spec calls course.session) :
    n.Closes key value spec lines calls course ∨
      n.Stands key spec (calls + 1) (n.perform (insist key value lines calls) course).2.session := by
  cases stands with
  | unbuilt remote awaited admitted =>
    obtain ⟨select, ready, idle, mode, launch⟩ :=
      n.perform_unbuilt requires deep enough lines remote awaited
    obtain ⟨mid, same, ⟨failure, failed⟩ | ⟨menu, required, opened⟩⟩ :=
      n.openMenu_fails_or_waits mode select (Key.read key).1 ⟨(Key.read key).2, .nonBlocking⟩ spec
    · have ran := launch failed
      rw [← same] at idle mode
      rw [n.suspended_failed (Nat.ne_zero_of_lt admitted)] at ran
      by_cases last : n.settings.retryLimit ≤ (waiting key (.menu spec) (calls + 1)).attempts
      · rw [if_pos last] at ran
        exact .inl (.givenUp awaited (Nat.le_antisymm admitted last) ran idle)
      · rw [if_neg last] at ran
        rw [ran]
        exact .inr (.unbuilt mode rfl (Nat.lt_of_not_le last))
    · rw [launch opened, n.suspended_of_success rfl]
      exact .inr (.asking (Nat.zero_lt_succ calls) ⟨rfl, required⟩)
  | @asking menu begun awaits =>
    obtain ⟨earlier, rfl⟩ := Nat.exists_eq_add_one.mpr begun
    have required : menu.followUp.required = true := by
      rw [awaits.2]
      exact requires.required
    rcases n.resume_required awaits.1 required (lines earlier) with
      ⟨left, waits⟩ | ⟨selection, outcome, mid, selects, launched, went⟩
    · have asks : AwaitsSelection key (menu.withModel left) _ := ⟨waits, awaits.2⟩
      exact .inr (.asking (Nat.zero_lt_succ _) asks)
    · exact .inl (.goesThrough rfl awaits selects launched went)

/-- However many calls come, and whatever their lines are. -/
theorem trial_run (deep : 0 < n.patience.depth) (enough : 0 < n.patience.rounds)
    (limited : n.settings.retryLimit ≠ 0) (remote : course.session.mode = .nonBlocking)
    (lines : Nat → String) (calls : Nat) :
    (∃ earlier < calls, n.Closes key value spec lines earlier
        (n.performAll (insistence key value lines earlier) course)) ∨
      n.Stands key spec calls (n.performAll (insistence key value lines calls) course).session := by
  induction calls with
  | zero => exact .inr (.unbuilt remote remote (Nat.pos_of_ne_zero limited))
  | succ calls ih =>
    rcases ih with ⟨earlier, before, closes⟩ | stands
    · exact .inl ⟨earlier, Nat.lt_succ_of_lt before, closes⟩
    · rw [insistence_succ, performAll_concat]
      exact (n.trial_step requires deep enough lines stands).imp_left fun closes =>
        ⟨calls, Nat.lt_succ_self calls, closes⟩

/-- Asked at once, a required menu is launched no more often than the limit says, and so no more
selections of it fail; when a failure is reported, all launches have been made and nothing is
pending. Left pending, it ends with a selection that goes through or when the last launch that the
limit admits has not built it: a selection that fails leaves it pending, however many have failed
before. -/
theorem required_menu_attempts (limited : n.settings.retryLimit ≠ 0) :
    (∀ {course after : Course World} {result : Except Halt Outcome},
      course.session.mode = .blocking → n.dispatch key value course = (result, after) →
        ∃ tries last, n.Journal (n.select (n.dispatchWithin (n.patience.depth - 1)))
            (Key.read key).1 ⟨(Key.read key).2, .blocking⟩ spec
            (course.prepared (Key.read key).2.anchor) tries last ∧
          after.world = last.world ∧ after.log = last.log ∧
          tries.countP Try.failed ≤ n.settings.retryLimit ∧
          ∀ failure, result = .ok (.failed failure) → tries.length = n.settings.retryLimit ∧
            (∃ selection, tries.getLast? = some ⟨selection, result⟩) ∧
              after.session.pending = none) ∧
    (∀ {course : Course World}, 0 < n.patience.depth → 0 < n.patience.rounds →
      course.session.mode = .nonBlocking → ∀ (lines : Nat → String) (calls : Nat),
        (∃ earlier < calls, n.Closes key value spec lines earlier
            (n.performAll (insistence key value lines earlier) course)) ∨
          n.Stands key spec calls
            (n.performAll (insistence key value lines calls) course).session) ∧
    ∀ {course mid : Course World} {menu : PendingMenu} {line : String}
      {selection : Menu.Selection} {outcome : Outcome}, AwaitsSelection key menu course.session →
        menu.view.model.selects line = some selection →
          n.select n.dispatch selection course.unasked = (.ok outcome, mid) →
            outcome.isFailure = true → n.resume line course = (.ok outcome, mid.pend (.menu menu)) := by
  refine ⟨fun blocking ran => n.dispatch_journal requires limited blocking ran,
    fun deep enough remote lines calls => n.trial_run requires deep enough limited remote lines calls,
    fun awaits selects launched failed => ?_⟩
  refine n.resume_of_failed awaits.1 ?_ selects launched failed
  rw [awaits.2]
  exact requires.required

end Trial

namespace Sample

def strict : Navigator Script :=
  { navigator with settings := { navigator.settings with retryLimit := 1 } }

def noteMenu : Value := .obj [("menu", .arr [.str "note"])]

def noteSpec : MenuSpec where
  items := .arr [.str "note"]

def noteItem : Menu.Item := ⟨"note", "note", false⟩

theorem note_requiresMenu : RequiresMenu "pick!" noteMenu noteSpec where
  required := by decide
  classified := rfl

def stuck (mode : Mode) : Course Script := visit mode ["1"] [.ok (.failed "busy")]

def picking : Course Script := (strict.dispatch "pick!" noteMenu (stuck .nonBlocking)).2

def pickMenu : PendingMenu where
  key := "pick"
  view := ⟨⟨[noteItem, Menu.backItem], none, true, false, .list⟩, .full, []⟩
  followUp := ⟨(Key.read "pick!").2, .nonBlocking⟩

theorem picking_awaits : AwaitsSelection "pick!" pickMenu picking.session := ⟨rfl, rfl⟩

theorem failed_of_map {result : Except Halt Outcome}
    (failed : result.map Outcome.isFailure = .ok true) :
    ∃ failure, result = .ok (.failed failure) := by
  rcases result with halt | outcome
  · cases failed
  · cases outcome with
    | failed failure => exact ⟨failure, rfl⟩
    | _ => cases failed

/-- Asked at once, the note is launched once. A client that picks it is told that it fails, and
the menu waits as before. -/
theorem required_menu_attempts_note :
    (∃ tries last, strict.Journal (strict.select (strict.dispatchWithin 2)) "pick"
        ⟨(Key.read "pick!").2, .blocking⟩ noteSpec ((stuck .blocking).prepared false) tries last ∧
      tries.length = 1 ∧
      (strict.dispatch "pick!" noteMenu (stuck .blocking)).2.session.pending = none) ∧
    ((∃ earlier < 3, strict.Closes "pick!" noteMenu noteSpec (fun _ => "1") earlier
        (strict.performAll (insistence "pick!" noteMenu (fun _ => "1") earlier)
          (stuck .nonBlocking))) ∨
      strict.Stands "pick!" noteSpec 3
        (strict.performAll (insistence "pick!" noteMenu (fun _ => "1") 3)
          (stuck .nonBlocking)).session) ∧
    ∃ (failure : Failure) (mid : Course Script),
      strict.resume "1" picking = (.ok (.failed failure), mid.pend (.menu pickMenu)) := by
  have limited : strict.settings.retryLimit ≠ 0 := by decide
  obtain ⟨atOnce, waits, again⟩ := strict.required_menu_attempts note_requiresMenu limited
  refine ⟨?_, waits (by decide) (by decide) rfl _ 3, ?_⟩
  · have failed : (strict.dispatch "pick!" noteMenu (stuck .blocking)).1.map Outcome.isFailure =
        .ok true := by decide +kernel
    have blocking : (stuck .blocking).session.mode = .blocking := rfl
    obtain ⟨failure, reported⟩ := failed_of_map failed
    obtain ⟨tries, last, journal, _, _, _, all⟩ := atOnce blocking rfl
    obtain ⟨total, _, idle⟩ := all failure reported
    exact ⟨tries, last, journal, total, idle⟩
  · have failed : (strict.select strict.dispatch (.single noteItem) picking.unasked).1.map
        Outcome.isFailure = .ok true := by decide +kernel
    obtain ⟨failure, launched⟩ := failed_of_map failed
    have selects : pickMenu.view.model.selects "1" = some (.single noteItem) := by decide +kernel
    exact ⟨failure, _, again picking_awaits selects (Prod.ext launched rfl) rfl⟩

/-- The limit admits one launch, and two selections are launched and fail. The menu is still
pending. -/
theorem required_menu_outlasts_limit :
    strict.settings.retryLimit = 1 ∧
    (strict.resume "1" picking).1.map Outcome.isFailure = .ok true ∧
    (strict.resume "1" (strict.resume "1" picking).2).1.map Outcome.isFailure = .ok true ∧
    (strict.resume "1" (strict.resume "1" picking).2).2.requests.length = 2 ∧
    AwaitsSelection "pick!" pickMenu
      (strict.resume "1" (strict.resume "1" picking).2).2.session := by
  refine ⟨rfl, ?_, ?_, ?_, rfl, rfl⟩ <;> decide +kernel

end Sample

end Signpost.Navigator
