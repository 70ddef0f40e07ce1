import Signpost.Navigator.Dispatch
import Signpost.Proofs.Navigator.Request
import Signpost.Proofs.Session

/-! Where a launch leaves the session.

The outcome tells it: unless it is a move, or the way back that an auto-returning key puts in place
of a move, the session has stayed. The parts of a composite are launched one after another only as
long as they stay, so the first move is the last. The account is for any notion of staying, since
launches without nested dispatches do not even anchor. -/

namespace Signpost

def Outcome.settles : Outcome → Bool
  | .relocated _ | .back => false
  | _ => true

theorem Outcome.settles_of_not_interrupts {outcome : Outcome} (goes : outcome.interrupts = false) :
    outcome.settles = true := by
  cases outcome <;> simp_all [interrupts, settles]

theorem Outcome.settles_of_isFailure {outcome : Outcome} (failed : outcome.isFailure = true) :
    outcome.settles = true := by
  cases outcome <;> simp_all [isFailure, settles]

theorem Outcome.ne_relocated_of_isFailure {outcome : Outcome} (failed : outcome.isFailure = true)
    (location : Location) : outcome ≠ .relocated location := by
  intro moved
  rw [moved] at failed
  cases failed

def Session.Leads (stay : Session → Session → Prop) (s : Session) :
    Except Halt Outcome → Session → Prop
  | .ok (.relocated location), s' => s.Moves stay location s'
  | .ok .back, s' => stay s s' ∨ ∃ location, s.Moves stay location s'
  | _, s' => stay s s'

namespace Session.Leads

variable {stay : Session → Session → Prop} {s mid s' : Session} {outcome : Outcome}

theorem of_settles (settles : outcome.settles = true) :
    s.Leads stay (.ok outcome) s' ↔ stay s s' := by
  cases outcome <;> first | rfl | cases settles

theorem after (dwelling : Dwelling stay) {result : Except Halt Outcome} (before : stay s mid)
    (leads : mid.Leads stay result s') : s.Leads stay result s' := by
  rcases result with halt | outcome
  · exact dwelling.trans before leads
  · cases outcome with
    | relocated location => exact Moves.after dwelling before leads
    | back =>
      rcases leads with stays | ⟨location, moves⟩
      · exact .inl (dwelling.trans before stays)
      · exact .inr ⟨location, moves.after dwelling before⟩
    | _ => exact dwelling.trans before leads

/-- Auto-return hides a move behind the way back and turns nothing into a move. -/
theorem finish (followUp : FollowUp) (leads : s.Leads stay (.ok outcome) s') :
    s.Leads stay (.ok (followUp.finish outcome)) s' := by
  unfold FollowUp.finish
  split
  · cases outcome with
    | relocated location =>
      cases followUp.mode with
      | blocking => exact .inr ⟨location, leads⟩
      | nonBlocking => exact leads
    | empty | done =>
      cases followUp.mode with
      | blocking => exact .inl leads
      | nonBlocking => exact leads
    | back => cases followUp.mode <;> exact leads
    | failed | abort | pending => exact leads
  · exact leads

end Session.Leads

namespace Act

variable {World α : Type}

/-- Wherever the act starts, its result tells where the session is left. -/
def Travels (stay : Session → Session → Prop) (act : Act World Outcome) : Prop :=
  ∀ course : Course World, course.session.Leads stay (act course).1 (act course).2.session

def TravelsPlaced (stay : Session → Session → Prop) (act : Act World Outcome) : Prop :=
  ∀ (course : Course World) {here : Location}, course.session.location? = some here →
    course.session.Leads stay (act course).1 (act course).2.session

namespace Travels

open Session

variable {stay : Session → Session → Prop} {act : Act World Outcome}
  {next : Outcome → Act World Outcome}

theorem of_run (travels : act.Travels stay) {course after : Course World}
    {result : Except Halt Outcome} (ran : act course = (result, after)) :
    course.session.Leads stay result after.session := by
  have leads := travels course
  rwa [ran] at leads

theorem placed (travels : act.Travels stay) : act.TravelsPlaced stay :=
  fun course _ _ => travels course

theorem pure (dwelling : Dwelling stay) {outcome : Outcome}
    (here : ∀ location, outcome ≠ .relocated location) :
    (pure outcome : Act World Outcome).Travels stay := by
  intro course
  cases outcome with
  | relocated location => exact absurd rfl (here location)
  | back => exact .inl (dwelling.refl _)
  | _ => exact dwelling.refl _

theorem refuse (dwelling : Dwelling stay) (error : DispatchError) :
    (Act.refuse error : Act World Outcome).Travels stay := fun _ => dwelling.refl _

theorem exhaust (dwelling : Dwelling stay) : (Act.exhaust : Act World Outcome).Travels stay :=
  fun _ => dwelling.refl _

theorem after (dwelling : Dwelling stay) {first : Act World α} {rest : α → Act World Outcome}
    (stays : first.Keeps stay) (travels : ∀ a, (rest a).Travels stay) :
    (first >>= rest).Travels stay := by
  intro course
  rcases ran : first course with ⟨halt | a, mid⟩
  · rw [bind_error ran]
    exact stays.of_run ran
  · rw [bind_ok ran]
    exact (travels a mid).after dwelling (stays.of_run ran)

theorem afterStill (dwelling : Dwelling stay) {first : Act World α}
    {rest : α → Act World Outcome} (still : first.Still) (travels : ∀ a, (rest a).Travels stay) :
    (first >>= rest).Travels stay :=
  after dwelling (.of_still dwelling.refl still) travels

/-- A launch may end with something left pending. -/
theorem pend (waiting : Waiting stay) (pending : Pending) {outcome : Outcome}
    (here : ∀ location, outcome ≠ .relocated location) :
    (Act.modifySession (fun session => session.setPending pending) >>= fun _ =>
      Pure.pure outcome : Act World Outcome).Travels stay :=
  after waiting.toDwelling (Keeps.modifySession fun s => waiting.pending s (some pending)) fun _ =>
    pure waiting.toDwelling here

/-- After a launch the outcome is handed on with the follow-up applied, or else the launch has
settled and another may begin. -/
theorem handOn (dwelling : Dwelling stay) (first : act.Travels stay)
    (rest : ∀ outcome, (∃ followUp : FollowUp, next outcome = Pure.pure (followUp.finish outcome)) ∨
      outcome.settles = true ∧ (next outcome).Travels stay) : (act >>= next).Travels stay := by
  intro course
  rcases ran : act course with ⟨halt | outcome, mid⟩
  · rw [bind_error ran]
    exact first.of_run ran
  · rw [bind_ok ran]
    have leads := first.of_run ran
    rcases rest outcome with ⟨followUp, same⟩ | ⟨settles, travels⟩
    · rw [same]
      exact leads.finish followUp
    · exact (travels mid).after dwelling ((Leads.of_settles settles).mp leads)

theorem restoring (dwelling : Dwelling stay) (travels : act.Travels stay) :
    (Act.restoring act).Travels stay := by
  intro course
  rcases ran : Act.restoring act course with ⟨halt | outcome, mid⟩
  · rw [restoring_error ran]
    exact dwelling.refl _
  · exact travels.of_run (restoring_ok ran)

end Travels

end Act

theorem Outcome.ofValue_ne_relocated (value : Value) (location : Location) :
    Outcome.ofValue value ≠ .relocated location := by
  cases value <;> nofun

namespace Navigator

open Act Session

variable {World : Type} (n : Navigator World) {stay : Session → Session → Prop}

/-! ## Commands without parts -/

theorem invoke_travels (dwelling : Dwelling stay) (collaborator : Collaborator) (name : String)
    (args : Value) : (n.invoke collaborator name args).Travels stay := by
  refine Travels.afterStill dwelling (n.request_still _) fun reply => ?_
  rcases reply with reason | (value | message | _)
  · exact Travels.pure dwelling nofun
  · exact Travels.pure dwelling (Outcome.ofValue_ne_relocated value)
  · exact Travels.pure dwelling nofun
  · exact Travels.pure dwelling nofun

theorem followLink_ok {written : String} {course mid : Course World} {location : Location}
    (found : n.linkTarget written course = (.ok location, mid)) :
    n.followLink written course = (.ok location, { mid with
      session := mid.session.relocate location ("link " ++ written) (n.host.now mid.world) }) :=
  bind_ok found

theorem link_travels (dwelling : Dwelling stay) (target : String) :
    (n.launchSimple (.link target)).Travels stay := by
  change Travels stay (n.followLink target >>= fun location => pure (.relocated location))
  intro course
  rcases found : n.linkTarget target course with ⟨halt | location, mid⟩
  · have refused : n.followLink target course = (.error halt, mid) := bind_error found
    rw [bind_error refused, (n.linkTarget_still target).of_run found]
    exact dwelling.refl _
  · rw [bind_ok (n.followLink_ok found)]
    have same := (n.linkTarget_still target).of_run found
    exact ⟨mid.session, _, _, same ▸ dwelling.refl _, rfl⟩

theorem present_travels (dwelling : Dwelling stay) (outcome : Outcome)
    (here : ∀ location, outcome ≠ .relocated location) : (n.present outcome).Travels stay := by
  unfold present
  split
  next value =>
    refine Travels.afterStill dwelling isBlocking_still fun blocking => ?_
    cases blocking with
    | false => exact Travels.pure dwelling nofun
    | true =>
      exact Travels.afterStill dwelling (n.display_still _) fun _ => Travels.pure dwelling nofun
  next => exact Travels.pure dwelling here

theorem openResource_travels (dwelling : Dwelling stay) (target : String) :
    (n.launchSimple (.openResource target)).Travels stay := by
  refine Travels.handOn dwelling (n.invoke_travels dwelling _ _ _) fun outcome => ?_
  cases outcome with
  | done value => exact .inr ⟨rfl, n.present_travels dwelling _ nofun⟩
  | _ => exact .inl ⟨.plain .blocking, rfl⟩

theorem launchSimple_travels (dwelling : Dwelling stay) (command : Command) :
    (n.launchSimple command).Travels stay := by
  cases command with
  | empty | menu | sequence | malformed => exact Travels.pure dwelling nofun
  | call | readResource | workflow | data => exact n.invoke_travels dwelling _ _ _
  | link target => exact n.link_travels dwelling target
  | openResource target => exact n.openResource_travels dwelling target
  | display value =>
    refine Travels.afterStill dwelling Still.session fun session => ?_
    refine Travels.afterStill dwelling isBlocking_still fun blocking => ?_
    cases blocking with
    | false => exact Travels.pure dwelling nofun
    | true =>
      exact Travels.afterStill dwelling (n.display_still _) fun _ => Travels.pure dwelling nofun
  | dialog spec =>
    refine Travels.afterStill dwelling isBlocking_still fun blocking => ?_
    cases blocking with
    | false => exact Travels.pure dwelling nofun
    | true => exact n.invoke_travels dwelling _ _ _
  | plain text =>
    refine Travels.afterStill dwelling isBlocking_still fun blocking => ?_
    cases blocking with
    | true => exact Travels.pure dwelling nofun
    | false =>
      exact Travels.afterStill dwelling (n.plainValue_still text) fun value =>
        Travels.pure dwelling (Outcome.ofValue_ne_relocated value)

/-! ## Composites -/

theorem collected_ne_relocated (values : List Value) (location : Location) :
    collected values ≠ .relocated location := by
  cases values <;> nofun

theorem collectAll_travels (dwelling : Dwelling stay) {α : Type} {launch : α → Act World Outcome}
    (part : ∀ a, (launch a).Travels stay) (parts : List α) (values : List Value) :
    (collectAll launch values parts).Travels stay := by
  induction parts generalizing values with
  | nil => exact Travels.pure dwelling (collected_ne_relocated values)
  | cons a parts ih =>
    refine Travels.handOn dwelling (part a) fun outcome => ?_
    by_cases interrupted : outcome.interrupts = true
    · exact .inl ⟨.plain .blocking, if_pos interrupted⟩
    · refine .inr ⟨Outcome.settles_of_not_interrupts (by simpa using interrupted), ?_⟩
      rw [if_neg interrupted]
      exact ih (collect values outcome)

section Nested

variable {nested : String → Value → Act World Outcome}

theorem launchItem_travels (dwelling : Dwelling stay)
    (inner : ∀ key value, (nested key value).TravelsPlaced stay) (item : Menu.Item) :
    (n.launchItem nested item).Travels stay := by
  unfold launchItem
  split
  next => exact Travels.pure dwelling nofun
  next =>
    extract_lets asCommand
    have plain : asCommand.Travels stay := by
      unfold asCommand
      split
      next => exact Travels.pure dwelling nofun
      next => exact n.launchSimple_travels dwelling _
      next => exact Travels.refuse dwelling _
    intro course
    rw [bind_ok session_run]
    cases located : course.session.location? with
    | none => exact plain course
    | some location =>
      dsimp only
      rcases loaded : n.load location.path course with ⟨halt | document, mid⟩
      · rw [bind_error loaded, (n.load_still _).of_run loaded]
        exact dwelling.refl _
      · have same := (n.load_still _).of_run loaded
        rw [bind_ok loaded, ← same]
        rcases document.lookupKey? location.block item.target with _ | ⟨written, command⟩
        · by_cases present : document.hasBlock item.target = true
          · simp only [if_pos present]
            exact ⟨mid.session, _, _, dwelling.refl _, rfl⟩
          · simp only [if_neg present]
            exact plain mid
        · exact inner written command mid (same ▸ located)

theorem select_travels (dwelling : Dwelling stay)
    (inner : ∀ key value, (nested key value).TravelsPlaced stay) (selection : Menu.Selection) :
    (n.select nested selection).Travels stay := by
  have launched := n.launchItem_travels dwelling inner
  cases selection with
  | single item => exact launched item
  | multi items => exact collectAll_travels dwelling launched items []
  | narrowed => exact Travels.pure dwelling nofun

theorem interact_travels (dwelling : Dwelling stay) {select : Menu.Selection → Act World Outcome}
    (selected : ∀ selection, (select selection).Travels stay) (rounds : Nat) (view : Menu.View) :
    (n.interact select rounds view).Travels stay := by
  induction rounds generalizing view with
  | zero => exact Travels.exhaust dwelling
  | succ rounds ih =>
    refine Travels.afterStill dwelling (n.render_still _) fun _ => ?_
    refine Travels.afterStill dwelling (n.prompt_still _) fun answer => ?_
    cases answer with
    | none => exact Travels.pure dwelling nofun
    | some line =>
      dsimp only
      split
      next model _ => exact ih { view with model := model }
      next selection _ _ => exact selected selection
      next =>
        exact Travels.afterStill dwelling (n.display_still _) fun _ => ih view

theorem openMenu_travels (suspending : Suspending stay) {select : Menu.Selection → Act World Outcome}
    (selected : ∀ selection, (select selection).Travels stay) (key : String) (followUp : FollowUp)
    (spec : MenuSpec) : (n.openMenu select key followUp spec).Travels stay := by
  have dwelling := suspending.toDwelling
  unfold openMenu
  refine Travels.afterStill dwelling (n.menuSource_still _) fun source => ?_
  split
  next => exact Travels.pure dwelling nofun
  next model _ =>
    refine Travels.afterStill dwelling Still.session fun session => ?_
    intro course
    cases mode : course.session.mode with
    | blocking =>
      rw [bind_ok (isBlocking_blocking mode)]
      exact n.interact_travels dwelling selected _ _ course
    | nonBlocking =>
      rw [bind_ok (isBlocking_nonBlocking mode)]
      exact suspending.suspended _ _ mode

theorem launchAction_travels (suspending : Suspending stay)
    (inner : ∀ key value, (nested key value).TravelsPlaced stay) (key : String) (followUp : FollowUp)
    (command : Command) : (n.launchAction nested key followUp command).Travels stay := by
  unfold launchAction
  split
  next spec =>
    have selected := n.select_travels suspending.toDwelling inner
    exact n.openMenu_travels suspending selected key followUp spec
  next => exact n.launchSimple_travels suspending.toDwelling _

mutual

theorem launchElement_travels (suspending : Suspending stay)
    (inner : ∀ key value, (nested key value).TravelsPlaced stay) (key : String) (index : Nat)
    (value : Value) : (n.launchElement nested key index value).Travels stay := by
  unfold launchElement
  split
  next items => exact launchElements_travels suspending inner key 0 [] items
  next value _ =>
    split
    next => exact Travels.refuse suspending.toDwelling _
    next command _ =>
      exact Travels.afterStill suspending.toDwelling Still.session fun session =>
        n.launchAction_travels suspending inner key _ command

theorem launchElements_travels (suspending : Suspending stay)
    (inner : ∀ key value, (nested key value).TravelsPlaced stay) (key : String) (index : Nat)
    (values elements : List Value) :
    (n.launchElements nested key index values elements).Travels stay := by
  cases elements with
  | nil => exact Travels.pure suspending.toDwelling (collected_ne_relocated values)
  | cons element elements =>
    unfold launchElements
    refine Travels.handOn suspending.toDwelling
      (launchElement_travels suspending inner key index element) fun outcome => ?_
    by_cases interrupted : outcome.interrupts = true
    · exact .inl ⟨.plain .blocking, if_pos interrupted⟩
    · refine .inr ⟨Outcome.settles_of_not_interrupts (by simpa using interrupted), ?_⟩
      rw [if_neg interrupted]
      exact launchElements_travels suspending inner key (index + 1) _ elements

end

theorem launchWith_travels (suspending : Suspending stay)
    (inner : ∀ key value, (nested key value).TravelsPlaced stay) (key : String) (followUp : FollowUp)
    (command : Command) : (n.launchWith nested key followUp command).Travels stay := by
  unfold launchWith
  split
  next items => exact n.launchElements_travels suspending inner key 0 [] items
  next => exact n.launchAction_travels suspending inner key followUp _

end Nested

end Navigator

end Signpost
