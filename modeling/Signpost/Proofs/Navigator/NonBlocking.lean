import Signpost.Proofs.Navigator.OneMove

/-! Launches in non-blocking mode dispatch nothing.

A menu that is left pending launches none of its items. How the keys of items are dispatched is then
of no account, and an anchor can only come from the mark of the launched key itself. -/

namespace Signpost.Navigator

open Act Session

variable {World : Type} (n : Navigator World) {nested nested' : String → Value → Act World Outcome}
  {course after : Course World} {outcome : Outcome}

theorem openMenu_nonBlocking {select select' : Menu.Selection → Act World Outcome}
    (mode : course.session.mode = .nonBlocking) (key : String) (followUp : FollowUp)
    (spec : MenuSpec) :
    n.openMenu select key followUp spec course = n.openMenu select' key followUp spec course := by
  unfold openMenu
  rcases asked : n.menuSource spec.items course with ⟨halt | source, mid⟩
  · rw [bind_error asked, bind_error asked]
  · rw [bind_ok asked, bind_ok asked]
    have still : mid.session.mode = .nonBlocking := by
      rw [(n.menuSource_still _).of_run asked, mode]
    cases Menu.build source ⟨spec.title, spec.allowBack && followUp.allowsBack, spec.multi⟩ with
    | error error => rfl
    | ok model =>
      dsimp only
      rw [bind_ok session_run, bind_ok session_run, bind_ok (isBlocking_nonBlocking still),
        bind_ok (isBlocking_nonBlocking still)]
      rfl

theorem launchAction_nonBlocking (mode : course.session.mode = .nonBlocking) (key : String)
    (followUp : FollowUp) (command : Command) :
    n.launchAction nested key followUp command course =
      n.launchAction nested' key followUp command course := by
  cases command with
  | menu spec => exact n.openMenu_nonBlocking mode key followUp spec
  | _ => rfl

/-- Nested dispatches that never come to anything. -/
def idle (_ : String) (_ : Value) : Act World Outcome := Act.exhaust

theorem idle_travels {stay : Session → Session → Prop} (dwelling : Dwelling stay) (key : String)
    (value : Value) : (idle key value : Act World Outcome).Travels stay :=
  Travels.exhaust dwelling

theorem launchElement_of_ok {value : Value} {command : Command}
    (leaf : ∀ items, value ≠ .arr items) (classified : Command.classify value = .ok command)
    (key : String) (index : Nat) :
    n.launchElement nested key index value =
      (Act.session >>= fun session => n.launchAction nested key (.plain session.mode) command) := by
  unfold launchElement
  split
  next items => exact absurd rfl (leaf items)
  next => rw [classified]

theorem launchElement_of_error {value : Value} {error : CommandError}
    (leaf : ∀ items, value ≠ .arr items) (classified : Command.classify value = .error error)
    (key : String) (index : Nat) :
    n.launchElement nested key index value =
      Act.refuse (.configuration (key ++ "[" ++ toString index ++ "]") error.message) := by
  unfold launchElement
  split
  next items => exact absurd rfl (leaf items)
  next => rw [classified]

theorem launchWith_of_not_sequence {command : Command} (single : ∀ items, command ≠ .sequence items)
    (key : String) (followUp : FollowUp) :
    n.launchWith nested key followUp command = n.launchAction nested key followUp command := by
  unfold launchWith
  split
  next items => exact absurd rfl (single items)
  next => rfl

theorem classify_arr (items : List Value) :
    ∃ command, Command.classify (.arr items) = .ok command ∧ ∀ nested key followUp,
      n.launchWith nested key followUp command = n.launchElements nested key 0 [] items := by
  cases items with
  | nil => exact ⟨.empty, rfl, fun _ _ _ => rfl⟩
  | cons item items => exact ⟨.sequence (item :: items), rfl, fun _ _ _ => rfl⟩

/-- A single element, given that lists of elements do not depend on nested dispatches. -/
theorem launchElement_nonBlocking (mode : course.session.mode = .nonBlocking) (key : String)
    (index : Nat) (value : Value)
    (parts : ∀ items, value = .arr items → n.launchElements nested key 0 [] items course =
      n.launchElements idle key 0 [] items course) :
    n.launchElement nested key index value course =
      n.launchElement idle key index value course := by
  by_cases composite : ∃ items, value = .arr items
  · obtain ⟨items, rfl⟩ := composite
    unfold launchElement
    exact parts items rfl
  · have leaf := not_exists.mp composite
    cases classified : Command.classify value with
    | error error =>
      rw [n.launchElement_of_error leaf classified, n.launchElement_of_error leaf classified]
    | ok command =>
      rw [n.launchElement_of_ok leaf classified, n.launchElement_of_ok leaf classified]
      rw [bind_ok session_run, bind_ok session_run]
      exact n.launchAction_nonBlocking mode key _ command

theorem launchElements_nonBlocking (nested : String → Value → Act World Outcome)
    (course : Course World) (mode : course.session.mode = .nonBlocking) (key : String) (index : Nat)
    (values elements : List Value) :
    n.launchElements nested key index values elements course =
      n.launchElements idle key index values elements course := by
  cases elements with
  | nil => rfl
  | cons element elements =>
    have same := n.launchElement_nonBlocking mode key index element fun items composite =>
      launchElements_nonBlocking nested course mode key 0 [] items
    unfold launchElements
    rcases launched : n.launchElement idle key index element course with
      ⟨halt | outcome, mid⟩
    · rw [bind_error launched, bind_error (same.trans launched)]
    · rw [bind_ok launched, bind_ok (same.trans launched)]
      by_cases interrupted : outcome.interrupts = true
      · rw [if_pos interrupted, if_pos interrupted]
      · rw [if_neg interrupted, if_neg interrupted]
        have leads := (n.launchElement_travels rests_waiting.suspending
          (fun key value => (idle_travels rests_dwelling key value).placed) key index
          element).of_run launched
        have settles := Outcome.settles_of_not_interrupts (by simpa using interrupted)
        have rests := (Leads.of_settles settles).mp leads
        have still := rests.sameFrame.mode.trans mode
        exact launchElements_nonBlocking nested mid still key (index + 1) _ elements
termination_by sizeOf elements
decreasing_by
  · subst_vars
    simp only [List.cons.sizeOf_spec, Value.arr.sizeOf_spec]
    omega
  · subst_vars
    simp only [List.cons.sizeOf_spec]
    omega

theorem launchWith_nonBlocking (mode : course.session.mode = .nonBlocking) (key : String)
    (followUp : FollowUp) (command : Command) :
    n.launchWith nested key followUp command course =
      n.launchWith idle key followUp command course := by
  by_cases composite : ∃ items, command = .sequence items
  · obtain ⟨items, rfl⟩ := composite
    exact n.launchElements_nonBlocking nested course mode key 0 [] items
  · have single := not_exists.mp composite
    rw [n.launchWith_of_not_sequence single, n.launchWith_of_not_sequence single]
    exact n.launchAction_nonBlocking mode key followUp command

/-- A launch changes pending input or moves, and does nothing else. -/
theorem launchWith_leads (nested : String → Value → Act World Outcome)
    (mode : course.session.mode = .nonBlocking) (key : String) (followUp : FollowUp)
    (command : Command) :
    course.session.Leads Rests (n.launchWith nested key followUp command course).1
      (n.launchWith nested key followUp command course).2.session := by
  rw [n.launchWith_nonBlocking mode]
  exact n.launchWith_travels rests_waiting.suspending
    (fun key value => (idle_travels rests_dwelling key value).placed) key followUp command course

/-! ## Dispatches that go through -/

/-- A failed launch is not repeated at once. -/
theorem launchRequired_leads {launch : Act World Outcome} {followUp : FollowUp}
    (mode : followUp.mode = .nonBlocking)
    (leads : course.session.Leads Rests (launch course).1 (launch course).2.session)
    (key : String) (command : Command) (rounds attempts : Nat) :
    course.session.Leads Rests
      (n.launchRequired launch key command followUp rounds attempts course).1
      (n.launchRequired launch key command followUp rounds attempts course).2.session := by
  cases rounds with
  | zero => exact rests_waiting.refl _
  | succ rounds =>
    unfold launchRequired
    rcases launched : launch course with ⟨halt | outcome, mid⟩
    · rw [launched] at leads
      rw [bind_error launched]
      exact leads
    · rw [launched] at leads
      rw [bind_ok launched]
      cases outcome with
      | failed failure =>
        dsimp only
        rw [if_pos mode]
        split
        · exact leads
        · exact rests_waiting.trans leads (rests_waiting.pending _ _)
      | _ => exact leads

theorem finish_nonBlocking {followUp : FollowUp} (mode : followUp.mode = .nonBlocking)
    (outcome : Outcome) : followUp.finish outcome = outcome := by
  unfold FollowUp.finish
  rw [mode]
  cases outcome <;> simp

/-- Of a key that goes through only the mark of an anchor is left. -/
theorem launchKey_passes {followUp : FollowUp} (mode : course.session.mode = .nonBlocking)
    (same : followUp.mode = .nonBlocking) {key : String} {command : Command}
    (launched : n.launchKey nested key followUp command course = (.ok outcome, after))
    (passes : outcome.interrupts = false) :
    Rests (course.session.anchoredIf followUp.anchor) after.session := by
  rw [launchKey_run] at launched
  obtain ⟨raw, last, attempt, finished⟩ := of_bind_ok launched
  cases finished
  rw [finish_nonBlocking same] at passes
  have dropped : Rests course.session course.session.clearPending := rfl
  have before : Rests (course.session.anchoredIf followUp.anchor)
      (course.prepared followUp.anchor).session := dropped.anchoredIf _
  have still : (course.prepared followUp.anchor).session.mode = .nonBlocking :=
    before.lingers.sameFrame.mode.trans mode
  have leads := n.launchWith_leads nested still key followUp command
  have settled : (course.prepared followUp.anchor).session.Leads Rests (.ok raw) after.session := by
    split at attempt
    · have required := n.launchRequired_leads same leads key command n.patience.rounds 0
      rwa [attempt] at required
    · rwa [attempt] at leads
  exact before.trans ((Leads.of_settles (Outcome.settles_of_not_interrupts passes)).mp settled)

theorem of_dispatch_ok {key : String} {value : Value}
    (dispatched : n.dispatch key value course = (.ok outcome, after)) :
    ∃ depth command, n.patience.depth = depth + 1 ∧
      commandOf (FollowUp.ofKey course.session.mode key).2 value = .ok command ∧
      n.launchKey (n.dispatchWithin depth) (Key.read key).1
        (FollowUp.ofKey course.session.mode key).2 command course = (.ok outcome, after) := by
  unfold dispatch at dispatched
  cases depth : n.patience.depth with
  | zero =>
    rw [depth] at dispatched
    cases dispatched
  | succ within =>
    rw [depth] at dispatched
    obtain ⟨session, read, here, dispatched⟩ := of_bind_ok dispatched
    cases here
    cases classified : commandOf (FollowUp.ofKey course.session.mode key).2 value with
    | error misconfigured =>
      simp only [classified] at dispatched
      cases dispatched
    | ok command =>
      simp only [classified] at dispatched
      exact ⟨within, command, rfl, rfl, restoring_ok dispatched⟩

theorem dispatch_passes (mode : course.session.mode = .nonBlocking) {key : String} {value : Value}
    (dispatched : n.dispatch key value course = (.ok outcome, after))
    (passes : outcome.interrupts = false) :
    Rests (course.session.anchoredIf (Key.read key).2.anchor) after.session := by
  obtain ⟨depth, command, _, _, launched⟩ := n.of_dispatch_ok dispatched
  exact n.launchKey_passes mode mode launched passes

end Signpost.Navigator
