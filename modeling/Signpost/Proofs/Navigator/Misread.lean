import Signpost.Proofs.Navigator.Action
import Signpost.Proofs.Navigator.Ambiguous
import Signpost.Proofs.Navigator.Permission
import Signpost.Proofs.Navigator.Unaddressed

/-! What has been done before a command turns out to be none.

The command of a key is read before anything is asked for. The elements of a sequence are read when
their turn comes, and keys that menus name when they are selected. So a sequence with an element that
cannot be read does until then what it would do if it ended there. -/

namespace Signpost

namespace Command

mutual

def legible : Value → Bool
  | .arr items => allLegible items
  | value => (classify value).isOk

def allLegible : List Value → Bool
  | [] => true
  | value :: values => legible value && allLegible values

end

mutual

/-- What is left of a value that ends before its first part that cannot be read. -/
def legiblePart : Value → List Value
  | .arr items => [.arr (legibleParts items)]
  | value => if (classify value).isOk then [value] else []

def legibleParts : List Value → List Value
  | [] => []
  | value :: values => legiblePart value ++ if legible value then legibleParts values else []

end

theorem legible_of_leaf {value : Value} (leaf : ∀ items, value ≠ .arr items) :
    legible value = (classify value).isOk ∧
      legiblePart value = if (classify value).isOk then [value] else [] := by
  cases value with
  | arr items => exact absurd rfl (leaf items)
  | _ => exact ⟨by rw [legible.eq_def], by rw [legiblePart.eq_def]⟩

mutual

theorem legiblePart_of_legible (value : Value) (reads : legible value = true) :
    legiblePart value = [value] := by
  by_cases composite : ∃ items, value = .arr items
  · obtain ⟨items, rfl⟩ := composite
    unfold legible at reads
    unfold legiblePart
    rw [legibleParts_of_legible items reads]
  · obtain ⟨same, part⟩ := legible_of_leaf (not_exists.mp composite)
    rw [part, if_pos (same.symm.trans reads)]

theorem legibleParts_of_legible (values : List Value) (read : allLegible values = true) :
    legibleParts values = values := by
  cases values with
  | nil => rfl
  | cons value values =>
    unfold allLegible at read
    obtain ⟨reads, read⟩ := Bool.and_eq_true_iff.mp read
    unfold legibleParts
    rw [legiblePart_of_legible value reads, if_pos reads, legibleParts_of_legible values read]
    rfl

end

theorem allLegible_append (first second : List Value) :
    allLegible (first ++ second) = (allLegible first && allLegible second) := by
  induction first with
  | nil => rfl
  | cons value values ih =>
    rw [List.cons_append, allLegible, allLegible, ih, Bool.and_assoc]

mutual

theorem allLegible_legiblePart (value : Value) : allLegible (legiblePart value) = true := by
  by_cases composite : ∃ items, value = .arr items
  · obtain ⟨items, rfl⟩ := composite
    unfold legiblePart
    simp only [allLegible, legible, Bool.and_true]
    exact allLegible_legibleParts items
  · obtain ⟨same, part⟩ := legible_of_leaf (not_exists.mp composite)
    rw [part]
    split
    next reads => simp only [allLegible, same, reads, Bool.and_true]
    next => rfl

/-- Nothing is left that cannot be read. -/
theorem allLegible_legibleParts (values : List Value) : allLegible (legibleParts values) = true := by
  cases values with
  | nil => rfl
  | cons value values =>
    unfold legibleParts
    rw [allLegible_append, allLegible_legiblePart value, Bool.true_and]
    split
    · exact allLegible_legibleParts values
    · rfl

end

end Command

/-- The halt says that a command cannot be read. -/
def Halt.IsMisreading (halt : Halt) : Prop :=
  ∃ key reason, halt = .refused (.configuration key reason)

theorem not_misreading_exhausted : ¬Halt.exhausted.IsMisreading := by
  rintro ⟨_, _, same⟩
  cases same

/-- How a run compares to one that ends before the first part that cannot be read. -/
inductive CutShort {World : Type} (whole part : Except Halt Outcome × Course World) : Prop where
  | same : whole = part → CutShort whole part
  | misread {halt : Halt} {mid : Course World} {outcome : Outcome} : halt.IsMisreading →
      whole = (.error halt, mid) → part = (.ok outcome, mid) → outcome.interrupts = false →
        CutShort whole part

namespace Navigator

open Act Session Command

variable {World : Type} (n : Navigator World) {nested : String → Value → Act World Outcome}
  {course mid after : Course World} {outcome : Outcome} {halt : Halt}

/-! ## Sequences that are cut short -/

mutual

/-- A value that cannot be read as a whole does not go through. -/
theorem launchElement_stops (key : String) (index : Nat) (value : Value) {course mid : Course World}
    {outcome : Outcome} (illegible : legible value = false)
    (launched : n.launchElement nested key index value course = (.ok outcome, mid)) :
    outcome.interrupts = true := by
  by_cases composite : ∃ items, value = .arr items
  · obtain ⟨items, rfl⟩ := composite
    unfold legible at illegible
    unfold launchElement at launched
    exact launchElements_stops key 0 [] items illegible launched
  · have leaf := not_exists.mp composite
    rw [(legible_of_leaf leaf).1] at illegible
    cases classified : classify value with
    | ok command =>
      rw [classified] at illegible
      cases illegible
    | error error =>
      rw [n.launchElement_of_error leaf classified] at launched
      cases launched

theorem launchElements_stops (key : String) (index : Nat) (values elements : List Value)
    {course mid : Course World} {outcome : Outcome} (illegible : allLegible elements = false)
    (launched : n.launchElements nested key index values elements course = (.ok outcome, mid)) :
    outcome.interrupts = true := by
  cases elements with
  | nil => cases illegible
  | cons element elements =>
    unfold launchElements at launched
    obtain ⟨first, next, began, launched⟩ := of_bind_ok launched
    cases goes : first.interrupts with
    | true =>
      rw [goes] at launched
      cases launched
      exact goes
    | false =>
      rw [goes] at launched
      cases reads : legible element with
      | false =>
        have stops := launchElement_stops key index element reads began
        rw [goes] at stops
        cases stops
      | true =>
        unfold allLegible at illegible
        rw [reads] at illegible
        exact launchElements_stops key (index + 1) _ elements illegible launched

end

/-- A sequence that is cut off in its first element cannot go through in two ways: the element stops
it, or it ends there. -/
theorem cut_of_element {whole part : Act World Outcome} {rest : Outcome → Act World Outcome}
    {values : List Value}
    (stops : ∀ {outcome mid}, whole course = (.ok outcome, mid) → outcome.interrupts = true)
    (cut : CutShort (whole course) (part course)) :
    CutShort
      ((whole >>= fun outcome => if outcome.interrupts then pure outcome else rest outcome) course)
      ((part >>= fun outcome => if outcome.interrupts then pure outcome
        else pure (collected (collect values outcome))) course) := by
  cases cut with
  | same same =>
    refine .same ?_
    rcases ran : whole course with ⟨halt | outcome, mid⟩
    · rw [bind_error ran, bind_error (same.symm.trans ran)]
    · rw [bind_ok ran, bind_ok (same.symm.trans ran), if_pos (stops ran), if_pos (stops ran)]
  | @misread halt mid outcome misreading halted went goes =>
    refine .misread misreading (bind_error halted) ((bind_ok went).trans ?_)
      (collected_goes (collect values outcome))
    rw [goes]
    rfl

theorem launchElements_cut (key : String) (index : Nat) (values elements : List Value)
    (course : Course World) :
    CutShort (n.launchElements nested key index values elements course)
      (n.launchElements nested key index values (legibleParts elements) course) := by
  cases elements with
  | nil => exact .same rfl
  | cons element elements =>
    cases reads : legible element with
    | true =>
      unfold legibleParts
      rw [legiblePart_of_legible element reads, if_pos reads, List.singleton_append]
      unfold launchElements
      rcases began : n.launchElement nested key index element course with ⟨halt | outcome, mid⟩
      · rw [bind_error began, bind_error began]
        exact .same rfl
      · rw [bind_ok began, bind_ok began]
        cases outcome.interrupts with
        | true => exact .same rfl
        | false => exact launchElements_cut key (index + 1) _ elements mid
    | false =>
      unfold legibleParts
      rw [if_neg (by simp [reads]), List.append_nil]
      -- a list is cut inside and stays; anything else is left out with all that follows
      by_cases composite : ∃ items, element = .arr items
      · obtain ⟨items, rfl⟩ := composite
        have within := launchElements_cut key 0 [] items course
        unfold legible at reads
        unfold legiblePart
        simp only [launchElements, launchElement]
        exact cut_of_element (fun ran => n.launchElements_stops key 0 [] items reads ran) within
      · have leaf := not_exists.mp composite
        obtain ⟨same, part⟩ := legible_of_leaf leaf
        rw [part, if_neg (by simp [← same, reads])]
        cases classified : classify element with
        | ok command =>
          rw [same, classified] at reads
          cases reads
        | error error =>
          unfold launchElements
          rw [n.launchElement_of_error leaf classified]
          exact .misread ⟨_, _, rfl⟩ (bind_error rfl) rfl (collected_goes values)
termination_by sizeOf elements
decreasing_by
  · subst_vars
    simp only [List.cons.sizeOf_spec, Value.arr.sizeOf_spec]
    omega
  · subst_vars
    simp only [List.cons.sizeOf_spec]
    omega

/-! ## Keys whose sequence is cut short -/

/-- However often the sequence is launched, it is cut short in the last launch. -/
theorem launchRequired_cut {launch launch' : Act World Outcome}
    (cut : ∀ course, CutShort (launch course) (launch' course)) (misreading : halt.IsMisreading)
    {key : String} {command : Command} (command' : Command) {followUp : FollowUp}
    {rounds attempts : Nat}
    (halted : n.launchRequired launch key command followUp rounds attempts course =
      (.error halt, after)) :
    n.launchRequired launch' key command' followUp rounds attempts course = (.error halt, after) ∨
      ∃ outcome, n.launchRequired launch' key command' followUp rounds attempts course =
        (.ok outcome, after) := by
  induction rounds generalizing course attempts with
  | zero =>
    cases halted
    exact absurd misreading not_misreading_exhausted
  | succ rounds ih =>
    unfold launchRequired at halted ⊢
    cases cut course with
    | same same =>
      rcases of_bind_error halted with first | ⟨outcome, mid, launched, halted⟩
      · exact .inl (bind_error (same.symm.trans first))
      · rw [bind_ok (same.symm.trans launched)]
        cases outcome with
        | failed failure =>
          dsimp only at halted ⊢
          by_cases givenUp : n.isGivenUp (attempts + 1) = true
          · rw [if_pos givenUp] at halted
            cases halted
          · rw [if_neg givenUp] at halted ⊢
            by_cases mode : followUp.mode = .nonBlocking
            · rw [if_pos mode] at halted
              cases halted
            · rw [if_neg mode] at halted ⊢
              rcases of_bind_error halted with unshown | ⟨_, shown, told, again⟩
              · cases unshown
              · rw [bind_ok told]
                exact ih again
        | _ => cases halted
    | @misread halt' mid outcome misreading' first went goes =>
      -- what goes on has not failed, so the shorter sequence is not launched again
      rw [bind_error first] at halted
      cases halted
      refine .inr ⟨outcome, (bind_ok went).trans ?_⟩
      cases outcome <;> first | rfl | cases goes

def attempting (nested : String → Value → Act World Outcome) (key : String) (followUp : FollowUp)
    (command : Command) : Act World Outcome :=
  if followUp.required then
    n.launchRequired (n.launchWith nested key followUp command) key command followUp
      n.patience.rounds 0
  else n.launchWith nested key followUp command

theorem launchKey_error {key : String} {followUp : FollowUp} {command : Command} :
    n.launchKey nested key followUp command course = (.error halt, after) ↔
      n.attempting nested key followUp command (course.prepared followUp.anchor) =
        (.error halt, after) := by
  rw [launchKey_run]
  constructor
  · intro halted
    rcases of_bind_error halted with stopped | ⟨_, _, _, finished⟩
    · exact stopped
    · cases finished
  · exact bind_error

theorem attempting_cut {key : String} {followUp : FollowUp} {command command' : Command}
    (cut : ∀ course, CutShort (n.launchWith nested key followUp command course)
      (n.launchWith nested key followUp command' course)) (misreading : halt.IsMisreading)
    (halted : n.attempting nested key followUp command course = (.error halt, after)) :
    n.attempting nested key followUp command' course = (.error halt, after) ∨
      ∃ outcome, n.attempting nested key followUp command' course = (.ok outcome, after) := by
  unfold attempting at halted ⊢
  cases required : followUp.required with
  | true =>
    rw [required] at halted
    exact n.launchRequired_cut cut misreading command' halted
  | false =>
    rw [required] at halted
    cases cut course with
    | same same => exact .inl (same.symm.trans halted)
    | misread _ first went _ =>
      cases halted.symm.trans first
      exact .inr ⟨_, went⟩

theorem launchKey_cut {key : String} {followUp : FollowUp} {command command' : Command}
    (cut : ∀ course, CutShort (n.launchWith nested key followUp command course)
      (n.launchWith nested key followUp command' course)) (misreading : halt.IsMisreading)
    (halted : n.launchKey nested key followUp command course = (.error halt, after)) :
    n.launchKey nested key followUp command' course = (.error halt, after) ∨
      ∃ outcome, n.launchKey nested key followUp command' course = (.ok outcome, after) := by
  rcases n.attempting_cut cut misreading (n.launchKey_error.mp halted) with stopped | ⟨outcome, went⟩
  · exact .inl (n.launchKey_error.mpr stopped)
  · refine .inr ⟨followUp.finish outcome, ?_⟩
    rw [launchKey_run]
    exact bind_ok went

end Navigator

/-! ## Menus that are drawn -/

/-- A menu has been drawn meanwhile. -/
def Course.Rendered {World : Type} (course after : Course World) : Prop :=
  ∃ view before, course.log <:+ before ∧ .talked (.rendered view) :: before <:+ after.log

theorem Course.Rendered.after {World : Type} {course mid last : Course World}
    (grown : course.log <:+ mid.log) (rendered : mid.Rendered last) : course.Rendered last := by
  obtain ⟨view, before, earlier, later⟩ := rendered
  exact ⟨view, before, grown.trans earlier, later⟩

namespace Act

variable {World α β : Type} {act : Act World α} {next : α → Act World β}

def Grows (act : Act World α) : Prop := ∀ course, course.log <:+ (act course).2.log

theorem Grows.of_run (grows : act.Grows) {course after : Course World} {result : Except Halt α}
    (ran : act course = (result, after)) : course.log <:+ after.log := by
  have grown := grows course
  rwa [ran] at grown

theorem Grows.of_honours (n : Navigator World)
    (honours : act.Honours .nothing (Charter.accounted n) fun _ => True) : act.Grows := by
  intro course
  obtain ⟨_, covered⟩ := honours course trivial
  rcases ran : act course with ⟨halt | a, after⟩
  · rw [ran] at covered
    exact covered.log
  · rw [ran] at covered
    exact covered.2.log

/-- If the act halts because a command cannot be read, a menu has been drawn meanwhile. -/
def Draws (act : Act World α) : Prop :=
  ∀ course halt after, act course = (.error halt, after) → halt.IsMisreading →
    course.Rendered after

namespace Draws

theorem of_ok (ok : ∀ course, (act course).1.isOk = true) : act.Draws := by
  intro course halt after halted
  have went := ok course
  rw [halted] at went
  cases went

theorem pure (a : α) : (pure a : Act World α).Draws := of_ok fun _ => rfl

theorem ask (request : StateM World α) (event : α → Event) : (Act.ask request event).Draws :=
  of_ok fun _ => rfl

theorem session : (Act.session : Act World Session).Draws := of_ok fun _ => rfl

theorem bind (grows : act.Grows) (first : act.Draws) (rest : ∀ a, (next a).Draws) :
    (act >>= next).Draws := by
  intro course halt after halted misreading
  rcases of_bind_error halted with stopped | ⟨a, mid, began, stopped⟩
  · exact first _ _ _ stopped misreading
  · exact (rest a _ _ _ stopped misreading).after (grows.of_run began)

/-- An attempt absorbs what cannot be read. -/
theorem attempt (act : Act World α) : (Act.attempt act).Draws := by
  intro course halt after halted
  unfold Act.attempt at halted
  split at halted <;> cases halted
  exact fun misreading => absurd misreading not_misreading_exhausted

end Draws

end Act

namespace Navigator

open Act Session Command

variable {World : Type} (n : Navigator World) {course mid after : Course World}
  {outcome : Outcome} {halt : Halt}

theorem accounted_law :
    Law n .nothing fun _ act => act.Honours .nothing (Charter.accounted n) fun _ => True :=
  n.accounted_roams.toFull.toFair.law

theorem request_draws (request : Request) : (n.request request).Draws :=
  .of_ok fun _ => rfl

theorem request_grows (request : Request) : (n.request request).Grows :=
  .of_honours n (n.accounted_law.request request)

theorem isBlocking_draws : (isBlocking : Act World Bool).Draws := .of_ok fun _ => rfl

theorem isBlocking_grows : (isBlocking : Act World Bool).Grows :=
  fun _ => List.suffix_refl _

theorem session_grows : (Act.session : Act World Session).Grows := fun _ => List.suffix_refl _

theorem display_draws {next : Unit → Act World Outcome} (payload : Payload)
    (rest : (next ()).Draws) : (n.display payload >>= next).Draws :=
  .bind (.of_honours n (n.accounted_law.display payload)) (.ask _ _) fun _ => rest

theorem ifBlocking_draws {next : Bool → Act World Outcome} (shown : (next true).Draws)
    (unshown : (next false).Draws) : (isBlocking >>= next).Draws := by
  refine .bind isBlocking_grows isBlocking_draws fun blocking => ?_
  cases blocking
  · exact unshown
  · exact shown

theorem invoke_draws (collaborator : Collaborator) (name : String) (args : Value) :
    (n.invoke collaborator name args).Draws := by
  refine .bind (n.request_grows _) (n.request_draws _) fun reply => ?_
  rcases reply with reason | (value | message | _) <;> exact .pure _

theorem present_draws (outcome : Outcome) : (n.present outcome).Draws := by
  unfold present
  split
  next => exact ifBlocking_draws (n.display_draws _ (.pure _)) (.pure _)
  next => exact .pure _

theorem plainValue_draws (text : String) : (n.plainValue text).Draws := by
  refine .bind (.of_honours n n.accounted_law.attempt) (.attempt _) fun found => ?_
  rcases found with error | ⟨document, block⟩
  · exact .pure _
  · dsimp only
    split
    · exact .pure _
    · split <;> exact .pure _

theorem followLink_draws (written : String) : (n.followLink written).Draws := by
  intro course halt after halted misreading
  obtain ⟨key, reason, same⟩ := misreading
  cases n.of_followLink halted with
  | @unloaded _ _ error => cases error <;> cases same
  | _ => cases same

theorem launchSimple_draws (command : Command) : (n.launchSimple command).Draws := by
  cases command with
  | empty | menu | sequence | malformed => exact .pure _
  | call | readResource | workflow | data => exact n.invoke_draws _ _ _
  | link target =>
    exact .bind (.of_honours n (n.accounted_law.followLink target)) (n.followLink_draws target)
      fun _ => .pure _
  | openResource target =>
    exact .bind (.of_honours n (n.accounted_law.invoke _ _ _)) (n.invoke_draws _ _ _) n.present_draws
  | display value =>
    refine .bind session_grows .session fun s => ?_
    exact ifBlocking_draws (n.display_draws _ (.pure _)) (.pure _)
  | dialog spec => exact ifBlocking_draws (n.invoke_draws _ _ _) (.pure _)
  | plain text =>
    refine ifBlocking_draws (.pure _) (.bind (.of_honours n (n.accounted_law.plainValue text)) ?_
      fun _ => .pure _)
    exact n.plainValue_draws text

/-- Whatever a selection comes to, it is made from a menu that has been drawn. -/
theorem interact_draws {select : Menu.Selection → Act World Outcome}
    (grows : ∀ selection, (select selection).Honours .nothing (Charter.accounted n) fun _ => True)
    (rounds : Nat) (view : Menu.View) : (n.interact select rounds view).Draws := by
  intro course halt after halted misreading
  have law := n.accounted_law
  cases rounds with
  | zero =>
    cases halted
    exact absurd misreading not_misreading_exhausted
  | succ rounds =>
    rw [interact_succ] at halted
    refine ⟨view, course.log, List.suffix_refl _, ?_⟩
    have drawn : .talked (.rendered view) :: course.log <:+ (n.lineFor view course).2.log :=
      List.suffix_cons _ _
    refine drawn.trans (Grows.of_run (.of_honours n ?_) halted)
    cases (n.lineFor view course).1 with
    | none => exact law.pure _
    | some line =>
      dsimp only
      split
      next => exact law.interact grows _ _
      next => exact grows _
      next => exact law.andThen (law.display _) fun _ => law.interact grows _ _

theorem openMenu_draws {select : Menu.Selection → Act World Outcome}
    (grows : ∀ selection, (select selection).Honours .nothing (Charter.accounted n) fun _ => True)
    (key : String) (followUp : FollowUp) (spec : MenuSpec) :
    (n.openMenu select key followUp spec).Draws := by
  unfold openMenu
  refine .bind (.of_honours n (n.accounted_law.menuSource _)) (.of_ok fun course => ?_) fun source => ?_
  · obtain ⟨source, asked⟩ := n.menuSource_run spec.items course
    rw [asked]
    rfl
  · split
    next => exact .pure _
    next model _ =>
      refine .bind session_grows .session fun s => ?_
      exact ifBlocking_draws (n.interact_draws grows _ _) (.of_ok fun _ => rfl)

section Nested

variable {nested : String → Value → Act World Outcome}
  (inner : ∀ key value, (nested key value).Honours .nothing (Charter.accounted n) fun _ => True)

include inner

theorem launchAction_draws (key : String) (followUp : FollowUp) (command : Command) :
    (n.launchAction nested key followUp command).Draws := by
  unfold launchAction
  split
  next => exact n.openMenu_draws (n.accounted_law.select fun key value _ => inner key value) _ _ _
  next => exact n.launchSimple_draws _

omit inner

mutual

theorem launchElement_draws
    (inner : ∀ key value, (nested key value).Honours .nothing (Charter.accounted n) fun _ => True)
    (key : String) (index : Nat) (value : Value) (reads : legible value = true) :
    (n.launchElement nested key index value).Draws := by
  by_cases composite : ∃ items, value = .arr items
  · obtain ⟨items, rfl⟩ := composite
    unfold legible at reads
    unfold launchElement
    exact launchElements_draws inner key 0 [] items reads
  · have leaf := not_exists.mp composite
    rw [(legible_of_leaf leaf).1] at reads
    cases classified : classify value with
    | error error =>
      rw [classified] at reads
      cases reads
    | ok command =>
      rw [n.launchElement_of_ok leaf classified]
      exact .bind session_grows .session fun s => n.launchAction_draws inner key _ command

theorem launchElements_draws
    (inner : ∀ key value, (nested key value).Honours .nothing (Charter.accounted n) fun _ => True)
    (key : String) (index : Nat) (values elements : List Value)
    (read : allLegible elements = true) :
    (n.launchElements nested key index values elements).Draws := by
  cases elements with
  | nil => exact .pure _
  | cons element elements =>
    unfold allLegible at read
    obtain ⟨reads, read⟩ := Bool.and_eq_true_iff.mp read
    unfold launchElements
    have grows : (n.launchElement nested key index element).Grows :=
      .of_honours n (n.accounted_law.launchElement (fun key value _ => inner key value) key index
        element trivial)
    refine .bind grows (launchElement_draws inner key index element reads) fun outcome => ?_
    split
    · exact .pure _
    · exact launchElements_draws inner key (index + 1) _ elements read

end

include inner

theorem launchWith_grows (key : String) (followUp : FollowUp) (command : Command) :
    (n.launchWith nested key followUp command).Grows :=
  .of_honours n (n.accounted_law.launchWith (fun key value _ => inner key value) key followUp
    fun _ _ _ _ => trivial)

theorem launchWith_draws (key : String) (followUp : FollowUp) {command : Command}
    (read : ∀ items, command = .sequence items → allLegible items = true) :
    (n.launchWith nested key followUp command).Draws := by
  unfold launchWith
  split
  next items => exact n.launchElements_draws inner key 0 [] items (read items rfl)
  next => exact n.launchAction_draws inner key followUp _

omit inner in
theorem launchRequired_draws {launch : Act World Outcome} (grows : launch.Grows)
    (draws : launch.Draws) (key : String) (command : Command) (followUp : FollowUp)
    (rounds attempts : Nat) :
    (n.launchRequired launch key command followUp rounds attempts).Draws := by
  induction rounds generalizing attempts with
  | zero =>
    intro course halt after halted misreading
    cases halted
    exact absurd misreading not_misreading_exhausted
  | succ rounds ih =>
    refine .bind grows draws fun outcome => ?_
    cases outcome with
    | failed failure =>
      dsimp only
      split
      · exact .pure _
      · split
        · exact .of_ok fun _ => rfl
        · exact n.display_draws _ (ih _)
    | _ => exact .pure _

theorem launchKey_draws (key : String) (followUp : FollowUp) {command : Command}
    (read : ∀ items, command = .sequence items → allLegible items = true)
    (halted : n.launchKey nested key followUp command course = (.error halt, after))
    (misreading : halt.IsMisreading) : course.Rendered after := by
  have grows := n.launchWith_grows inner key followUp command
  have draws := n.launchWith_draws inner key followUp read
  have stopped := n.launchKey_error.mp halted
  unfold attempting at stopped
  split at stopped
  · have rendered := n.launchRequired_draws grows draws _ _ _ _ _ _ _ _ stopped misreading
    exact rendered
  · have rendered := draws _ _ _ stopped misreading
    exact rendered

end Nested

/-! ## Dispatches -/

theorem mode_of_rendered {key : String} {value : Value} {result : Except Halt Outcome}
    (dispatched : n.dispatch key value course = (result, after)) (rendered : course.Rendered after) :
    course.session.mode = .blocking := by
  cases mode : course.session.mode with
  | blocking => rfl
  | nonBlocking =>
    obtain ⟨recent, logged, silent⟩ := n.perform_unaddressed mode (.dispatch key value)
    change (n.dispatch key value course).2.log = _ at logged
    rw [dispatched] at logged
    obtain ⟨view, _, ⟨earlier, rfl⟩, later, drawn⟩ := rendered
    have split : recent = later ++ .talked (.rendered view) :: earlier := by
      refine List.append_cancel_right (logged.symm.trans ?_)
      rw [List.append_assoc, List.cons_append]
      exact drawn.symm
    have unseen := silent (.talked (.rendered view)) (by simp [split])
    cases unseen

theorem commandOf_sequence {followUp : FollowUp} {value : Value} {items : List Value}
    (read : commandOf followUp value = .ok (.sequence items)) :
    value = .arr items ∧ followUp.autoMenu = false := by
  unfold commandOf at read
  split at read
  next => cases read
  next unmarked =>
    obtain rfl := eq_arr_of_classify read
    refine ⟨rfl, ?_⟩
    cases marked : followUp.autoMenu with
    | false => rfl
    | true =>
      rw [marked] at unmarked
      cases items <;> cases unmarked
      cases read

theorem launchKey_nothing {nested : String → Value → Act World Outcome} {key : String}
    {followUp : FollowUp} {command : Command}
    (nothing : n.launchWith nested key followUp command = pure .empty)
    (launched : n.launchKey nested key followUp command course = (.ok outcome, after)) :
    after = course.prepared followUp.anchor := by
  rw [launchKey_run, nothing] at launched
  obtain ⟨_, _, attempt, finished⟩ := of_bind_ok launched
  cases finished
  split at attempt
  · cases rounds : n.patience.rounds with
    | zero =>
      rw [rounds] at attempt
      cases attempt
    | succ rounds =>
      rw [rounds] at attempt
      cases attempt
      rfl
  · cases attempt
    rfl

/-- If the sequence of a key cannot be read as a whole, the key does what it does for the part that
can, unless a menu is drawn in it. -/
theorem launchKey_part {nested : String → Value → Act World Outcome}
    (inner : ∀ key value, (nested key value).Honours .nothing (Charter.accounted n) fun _ => True)
    {key : String} {followUp : FollowUp} {items : List Value} {part : Command}
    (read : classify (.arr (legibleParts items)) = .ok part)
    (parts : ∀ nested key followUp, n.launchWith nested key followUp part =
      n.launchElements nested key 0 [] (legibleParts items)) (misreading : halt.IsMisreading)
    (halted : n.launchKey nested key followUp (.sequence items) course = (.error halt, after)) :
    course.Rendered after ∨
      ∃ outcome, n.launchKey nested key followUp part course = (.ok outcome, after) := by
  have cut (course : Course World) : CutShort
      (n.launchWith nested key followUp (.sequence items) course)
      (n.launchWith nested key followUp part course) := by
    rw [parts]
    exact n.launchElements_cut key 0 [] items course
  refine (n.launchKey_cut cut misreading halted).imp_left fun stopped => ?_
  refine n.launchKey_draws inner key followUp (fun other same => ?_) stopped misreading
  subst same
  cases eq_arr_of_classify read
  exact allLegible_legibleParts items

/-- A launch that is refused because a command cannot be read has drawn a menu, or it is the launch
of a sequence that has done what it does for the part that can be read. -/
theorem launchKey_misreads {nested : String → Value → Act World Outcome}
    (inner : ∀ key value, (nested key value).Honours .nothing (Charter.accounted n) fun _ => True)
    {key : String} {followUp : FollowUp} {command : Command} (misreading : halt.IsMisreading)
    (halted : n.launchKey nested key followUp command course = (.error halt, after)) :
    course.Rendered after ∨ ∃ items part outcome, command = .sequence items ∧
      allLegible items = false ∧ classify (.arr (legibleParts items)) = .ok part ∧
        n.launchKey nested key followUp part course = (.ok outcome, after) ∧
          (legibleParts items = [] → after = course.prepared followUp.anchor) := by
  by_cases composite : ∃ items, command = .sequence items ∧ allLegible items = false
  · obtain ⟨items, rfl, illegible⟩ := composite
    obtain ⟨part, read, parts⟩ := classify_arr n (legibleParts items)
    refine (n.launchKey_part inner read parts misreading halted).imp_right fun ⟨outcome, went⟩ => ?_
    refine ⟨items, part, outcome, rfl, illegible, read, went, fun none => ?_⟩
    have nothing := parts nested key followUp
    rw [none] at nothing
    exact n.launchKey_nothing nothing went
  · refine .inl (n.launchKey_draws inner key followUp (fun items same => ?_) halted misreading)
    cases read : allLegible items with
    | true => rfl
    | false => exact absurd ⟨items, same, read⟩ composite

/-- If a dispatch is refused because a command cannot be read, the session is as before, and it was
the command of the key, so that nothing has been done; or it was an element of a sequence, and what
has been done is what the sequence does if it ends before this element; or a menu has been drawn, and
the key of one of its items was dispatched. -/
theorem dispatch_misreads {key : String} {value : Value} {place reason : String}
    (refused : n.dispatch key value course =
      (.error (.refused (.configuration place reason)), after)) :
    after.session = course.session ∧
    ((∃ error, commandOf (FollowUp.ofKey course.session.mode key).2 value = .error error) ∧
        after = course ∨
      (∃ items outcome rest, value = .arr items ∧ allLegible items = false ∧
        n.dispatch key (.arr (legibleParts items)) course = (.ok outcome, rest) ∧
          after.log = rest.log ∧ after.world = rest.world ∧
            (legibleParts items = [] → after = course)) ∨
      course.session.mode = .blocking ∧ course.Rendered after) := by
  have misreading : (Halt.refused (.configuration place reason)).IsMisreading := ⟨place, reason, rfl⟩
  refine ⟨n.dispatch_undone key value refused, ?_⟩
  cases depth : n.patience.depth with
  | zero =>
    unfold dispatch at refused
    rw [depth] at refused
    cases refused
  | succ within =>
    cases classified : commandOf (FollowUp.ofKey course.session.mode key).2 value with
    | error error =>
      rw [n.dispatch_misread (by omega) classified] at refused
      cases refused
      exact .inl ⟨⟨error, rfl⟩, rfl⟩
    | ok command =>
      have restored := refused
      unfold dispatch at restored
      rw [depth, n.dispatchWithin_eq rfl classified] at restored
      obtain ⟨mid, launched, rfl⟩ := of_restoring_error restored
      have inner (key : String) (value : Value) :=
        n.accounted_law.dispatchWithin within key value trivial
      rcases n.launchKey_misreads inner misreading launched with
        rendered | ⟨items, part, outcome, rfl, illegible, read, went, nothing⟩
      · exact .inr (.inr ⟨n.mode_of_rendered refused rendered, rendered⟩)
      · obtain ⟨rfl, unmarked⟩ := commandOf_sequence classified
        -- the key has no mark of a menu, so the legible part is read as a sequence too
        have reread := (commandOf_eq unmarked (.arr (legibleParts items))).trans read
        refine .inr (.inl ⟨items, outcome, mid, rfl, illegible, ?_, rfl, rfl, fun none => ?_⟩)
        · unfold dispatch
          rw [depth, n.dispatchWithin_eq rfl reread]
          exact ok_restoring went
        · rw [nothing none]
          rfl

namespace Sample

def smudged : List Value := [.str "call(note)", .obj [("colour", .str "red")], .str "call(note)"]

def smudge : Halt :=
  .refused (.configuration "paint[1]" "record has no recognized action key: colour")

theorem smudged_refused :
    (navigator.dispatch "paint" (.arr smudged) (visit .nonBlocking [] [])).1 = .error smudge := by
  decide +kernel

/-- What has been done is the first element. -/
theorem dispatch_misreads_smudged :
    ∃ after, navigator.dispatch "paint" (.arr smudged) (visit .nonBlocking [] []) =
        (.error smudge, after) ∧
      after.session = (visit .nonBlocking [] []).session ∧
      ∃ outcome rest, navigator.dispatch "paint" (.arr [.str "call(note)"])
        (visit .nonBlocking [] []) = (.ok outcome, rest) ∧ after.log = rest.log := by
  have refused := run_error smudged_refused
  obtain ⟨same, ⟨⟨error, misread⟩, _⟩ | ⟨items, outcome, rest, same', _, went, logged, _⟩ | ⟨mode, _⟩⟩ :=
    navigator.dispatch_misreads refused
  · cases misread
  · cases same'
    exact ⟨_, refused, same, outcome, rest, went, logged⟩
  · cases mode

/-- A function has been called by then. -/
theorem smudged_half_run :
    ∃ after, navigator.dispatch "paint" (.arr smudged) (visit .nonBlocking [] []) =
        (.error smudge, after) ∧ after.requests.length = 1 :=
  ⟨_, run_error smudged_refused, by decide +kernel⟩

end Sample

end Navigator

end Signpost
