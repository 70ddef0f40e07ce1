import Signpost.Proofs.Navigator.Resumption

/-! What a launch leaves pending in non-blocking mode.

A launch leaves mode and pending input alone unless it opens a menu, and then it comes to the prompt
of the menu. A sequence goes on only after parts that open none, so this holds of whole sequences
too. -/

namespace Signpost

def Outcome.asks : Outcome → Bool
  | .pending _ => true
  | _ => false

theorem Outcome.asks_of_not_interrupts {outcome : Outcome} (goes : outcome.interrupts = false) :
    outcome.asks = false := by
  cases outcome <;> simp_all [interrupts, asks]

theorem Outcome.asks_ofValue (value : Value) : (Outcome.ofValue value).asks = false := by
  cases value <;> rfl

namespace Session

variable {s s' mid : Session} {outcome : Outcome}

def Undisturbed (s s' : Session) : Prop := s'.mode = s.mode ∧ s'.pending = s.pending

theorem undisturbed_dwelling : Dwelling Undisturbed where
  refl _ := ⟨rfl, rfl⟩
  trans first second := ⟨second.1.trans first.1, second.2.trans first.2⟩

theorem checkpoint_undisturbed (s : Session) : Undisturbed s s.checkpoint.2 := by
  rw [checkpoint_eq]
  exact ⟨rfl, rfl⟩

theorem anchoredIf_undisturbed (s : Session) (anchor : Bool) :
    Undisturbed s (s.anchoredIf anchor) := by
  cases anchor
  · exact ⟨rfl, rfl⟩
  · exact checkpoint_undisturbed s

theorem Leads.undisturbed {result : Except Halt Outcome} (leads : s.Leads Undisturbed result s') :
    Undisturbed s s' := by
  have moved {location : Location} (moves : s.Moves Undisturbed location s') :
      Undisturbed s s' := by
    obtain ⟨mid, context, time, stays, rfl⟩ := moves
    exact stays
  rcases result with halt | outcome
  · exact leads
  · cases outcome with
    | relocated => exact moved leads
    | back => exact leads.elim id fun ⟨_, moves⟩ => moved moves
    | _ => exact leads

/-- What a launch that ended in this way leaves pending. -/
def Awaits (s : Session) : Except Halt Outcome → Session → Prop
  | .ok (.pending prompt), s' =>
      s'.mode = s.mode ∧ ∃ menu, s'.pending = some (.menu menu) ∧ menu.prompt = prompt
  | _, s' => Undisturbed s s'

namespace Awaits

theorem of_undisturbed (quiet : outcome.asks = false) :
    s.Awaits (.ok outcome) s' ↔ Undisturbed s s' := by
  cases outcome <;> first | rfl | cases quiet

theorem after {result : Except Halt Outcome} (before : Undisturbed s mid)
    (awaits : mid.Awaits result s') : s.Awaits result s' := by
  rcases result with halt | outcome
  · exact undisturbed_dwelling.trans before awaits
  · cases outcome with
    | pending prompt => exact ⟨awaits.1.trans before.1, awaits.2⟩
    | _ => exact undisturbed_dwelling.trans before awaits

end Awaits

end Session

namespace Act

variable {World α : Type} {act : Act World Outcome} {next : Outcome → Act World Outcome}

/-- In non-blocking mode the result tells what has been left pending. -/
def Awaits (act : Act World Outcome) : Prop :=
  ∀ course : Course World, course.session.mode = .nonBlocking →
    course.session.Awaits (act course).1 (act course).2.session

namespace Awaits

open Session

theorem of_run (awaits : act.Awaits) {course after : Course World}
    (mode : course.session.mode = .nonBlocking) {result : Except Halt Outcome}
    (ran : act course = (result, after)) : course.session.Awaits result after.session := by
  have left := awaits course mode
  rwa [ran] at left

theorem quiet (travels : act.Travels Undisturbed) (yields : act.Yields (·.asks = false)) :
    act.Awaits := by
  intro course _
  have same := (travels course).undisturbed
  rcases ran : act course with ⟨halt | outcome, after⟩
  · rw [ran] at same
    exact same
  · rw [ran] at same
    exact (Session.Awaits.of_undisturbed (yields.of_run ran)).mpr same

theorem afterStill {first : Act World α} {rest : α → Act World Outcome} (still : first.Still)
    (awaits : ∀ a, (rest a).Awaits) : (first >>= rest).Awaits := by
  intro course mode
  have same := still course
  rcases ran : first course with ⟨halt | a, mid⟩
  · rw [ran] at same
    rw [bind_error ran, same]
    exact ⟨rfl, rfl⟩
  · rw [ran] at same
    rw [bind_ok ran, ← same]
    exact awaits a mid (by rwa [same])

/-- After a part that does not interrupt nothing new is pending. -/
theorem andThen (first : act.Awaits)
    (rest : ∀ outcome, next outcome = Pure.pure outcome ∨
      outcome.interrupts = false ∧ (next outcome).Awaits) : (act >>= next).Awaits := by
  intro course mode
  rcases ran : act course with ⟨halt | outcome, mid⟩
  · rw [bind_error ran]
    exact first.of_run mode ran
  · rw [bind_ok ran]
    have left := first.of_run mode ran
    rcases rest outcome with same | ⟨goes, awaits⟩
    · rw [same]
      exact left
    · have before := (Session.Awaits.of_undisturbed (Outcome.asks_of_not_interrupts goes)).mp left
      exact (awaits mid (before.1.trans mode)).after before

end Awaits

end Act

namespace Navigator

open Act Session

variable {World : Type} (n : Navigator World) {course after : Course World} {outcome : Outcome}

/-! ## Launches -/

theorem invoke_asks (collaborator : Collaborator) (name : String) (args : Value) :
    (n.invoke collaborator name args).Yields (·.asks = false) := by
  refine Yields.last fun reply => ?_
  rcases reply with reason | (value | message | _)
  · exact Yields.pure rfl
  · exact Yields.pure (Outcome.asks_ofValue value)
  · exact Yields.pure rfl
  · exact Yields.pure rfl

theorem present_asks (quiet : outcome.asks = false) :
    (n.present outcome).Yields (·.asks = false) := by
  unfold present
  split
  next value =>
    refine Yields.last fun blocking => ?_
    cases blocking with
    | false => exact Yields.pure rfl
    | true => exact Yields.last fun _ => Yields.pure rfl
  next => exact Yields.pure quiet

theorem launchSimple_asks (command : Command) :
    (n.launchSimple command).Yields (·.asks = false) := by
  cases command with
  | empty | menu | sequence | malformed => exact Yields.pure rfl
  | call | readResource | workflow | data => exact n.invoke_asks _ _ _
  | link target => exact Yields.last fun _ => Yields.pure rfl
  | openResource target => exact (n.invoke_asks _ _ _).bind fun _ quiet => n.present_asks quiet
  | display value =>
    refine Yields.last fun _ => Yields.last fun blocking => ?_
    cases blocking with
    | false => exact Yields.pure rfl
    | true => exact Yields.last fun _ => Yields.pure rfl
  | dialog spec =>
    refine Yields.last fun blocking => ?_
    cases blocking with
    | false => exact Yields.pure rfl
    | true => exact n.invoke_asks _ _ _
  | plain text =>
    refine Yields.last fun blocking => ?_
    cases blocking with
    | true => exact Yields.pure rfl
    | false => exact Yields.last fun value => Yields.pure (Outcome.asks_ofValue value)

theorem launchSimple_awaits (command : Command) : (n.launchSimple command).Awaits :=
  .quiet (n.launchSimple_travels undisturbed_dwelling command) (n.launchSimple_asks command)

theorem collected_asks (values : List Value) : (collected values).asks = false := by
  cases values <;> rfl

theorem pure_awaits (quiet : outcome.asks = false) : (pure outcome : Act World Outcome).Awaits :=
  fun _ _ => (Session.Awaits.of_undisturbed quiet).mpr ⟨rfl, rfl⟩

theorem openMenu_awaits (select : Menu.Selection → Act World Outcome) (key : String)
    (followUp : FollowUp) (spec : MenuSpec) : (n.openMenu select key followUp spec).Awaits := by
  unfold openMenu
  refine .afterStill (n.menuSource_still _) fun source => ?_
  split
  next => exact pure_awaits rfl
  next model _ =>
    refine .afterStill Still.session fun session => ?_
    intro course mode
    rw [bind_ok (isBlocking_nonBlocking mode)]
    exact ⟨rfl, _, rfl, rfl⟩

variable {nested : String → Value → Act World Outcome}

theorem launchAction_awaits (key : String) (followUp : FollowUp) (command : Command) :
    (n.launchAction nested key followUp command).Awaits := by
  unfold launchAction
  split
  next spec => exact n.openMenu_awaits _ key followUp spec
  next => exact n.launchSimple_awaits _

mutual

theorem launchElement_awaits (nested : String → Value → Act World Outcome) (key : String)
    (index : Nat) (value : Value) : (n.launchElement nested key index value).Awaits := by
  unfold launchElement
  split
  next items => exact launchElements_awaits nested key 0 [] items
  next value _ =>
    split
    next => exact fun _ _ => ⟨rfl, rfl⟩
    next command _ =>
      exact .afterStill Still.session fun session => n.launchAction_awaits key _ command

theorem launchElements_awaits (nested : String → Value → Act World Outcome) (key : String)
    (index : Nat) (values elements : List Value) :
    (n.launchElements nested key index values elements).Awaits := by
  cases elements with
  | nil => exact pure_awaits (collected_asks values)
  | cons element elements =>
    unfold launchElements
    refine .andThen (launchElement_awaits nested key index element) fun outcome => ?_
    by_cases interrupted : outcome.interrupts = true
    · exact .inl (if_pos interrupted)
    · refine .inr ⟨by simpa using interrupted, ?_⟩
      rw [if_neg interrupted]
      exact launchElements_awaits nested key (index + 1) _ elements

end

theorem launchWith_awaits (key : String) (followUp : FollowUp) (command : Command) :
    (n.launchWith nested key followUp command).Awaits := by
  unfold launchWith
  split
  next items => exact n.launchElements_awaits nested key 0 [] items
  next => exact n.launchAction_awaits key followUp _

end Navigator

end Signpost
