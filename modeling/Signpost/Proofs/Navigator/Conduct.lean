import Signpost.Proofs.Menu
import Signpost.Proofs.Navigator.Following
import Signpost.Proofs.Navigator.Selecting
import Signpost.Proofs.Outcome

/-! The conduct of launches.

Until a session moves, all that is launched is launched at one place and in one mode, and nothing is
launched after a move. A conduct says what is known there: which commands are launched, which items
menus offer, what happens to a course meanwhile, and which results may come of it. Where it suits a
navigator it is enough to look at the single requests; launches, dispatches and answers then conform
to it as a whole. -/

namespace Signpost

/-- Whether the user is addressed, directly or through a dialog. -/
def Event.addresses : Event → Bool
  | talked _ => true
  | invoked request .. => decide (request.collaborator = .dialogs)
  | loaded _ | checked .. | stepped _ => false

/-- Whether the refusal says that a link could not be read or led to a block that is missing. -/
def Halt.blamesLink : Halt → Bool
  | .refused (.invalidLink _) | .refused (.blockNotFound ..) => true
  | _ => false

theorem LoadError.refusal_blamesLink (error : LoadError) :
    Halt.blamesLink (.refused error.refusal) = false := by
  cases error <;> rfl

def Course.Settles {World : Type} (course after : Course World) : Prop :=
  after.session.pending = none ∨ after.session.pending = course.session.pending

theorem Course.Settles.trans {World : Type} {course mid after : Course World}
    (first : course.Settles mid) (second : mid.Settles after) : course.Settles after := by
  rcases second with nothing | same
  · exact .inl nothing
  · exact first.imp same.trans same.trans

/-- What is known of launches at one place. -/
structure Conduct (World : Type) where
  mode : Mode
  /-- The sessions that have not moved. -/
  here : Session → Prop
  document : String → Document → Prop := fun _ _ => True
  fits : Command → Prop := fun _ => True
  offers : Menu.Item → Prop := fun _ => True
  passes : Course World → Course World → Prop
  bears : Except Halt Outcome → Prop := fun _ => True

namespace Conduct

variable {World : Type}

def Waits (conduct : Conduct World) : Pending → Prop
  | .menu pending => ∀ item ∈ pending.view.model.items, conduct.offers item
  | .retry pending => conduct.fits pending.command

/-- Whether an act that ends like this may leave something pending. -/
def Suspends : Except Halt Outcome → Prop
  | .error _ | .ok (.pending _) | .ok (.failed _) => True
  | .ok _ => False

inductive Ends (conduct : Conduct World) (course : Course World) (result : Except Halt Outcome) :
    Course World → Prop where
  | through {after : Course World} : conduct.bears result → conduct.passes course after →
      Ends conduct course result after
  | waiting {mid : Course World} (pending : Pending) : conduct.bears result →
      conduct.passes course mid → conduct.mode = .nonBlocking → Suspends result →
        conduct.Waits pending → Ends conduct course result (mid.pend pending)

/-- What a conduct has to say of commands, of items and of single requests. -/
structure Suits (n : Navigator World) (conduct : Conduct World) : Prop where
  moded : ∀ {s}, conduct.here s → s.mode = conduct.mode
  stays : ∀ {s s'}, conduct.here s → s.Lingers s' → conduct.here s'
  loads : ∀ path, (n.load path).Yields (conduct.document path)
  entry : ∀ {s location document key written value command}, conduct.here s →
    s.location? = some location → conduct.document location.path document →
      document.lookupKey? location.block key = some (written, value) →
        Navigator.commandOf (FollowUp.ofKey conduct.mode written).2 value = .ok command →
          conduct.fits command
  element : ∀ {items item command}, conduct.fits (.sequence items) → item ∈ items →
    Command.classify item = .ok command → conduct.fits command
  option : ∀ {spec source items item course mid}, conduct.fits (.menu spec) →
    n.menuSource spec.items course = (.ok source, mid) → source.items = .ok items → item ∈ items →
      conduct.offers item
  back : conduct.offers Menu.backItem
  target : ∀ {s item command}, conduct.here s → conduct.offers item → item.back = false →
    (∀ location, s.location? = some location → ∃ document, conduct.document location.path document ∧
      document.lookupKey? location.block item.target = none ∧
        document.hasBlock item.target = false) →
      Command.classify (.str item.target) = .ok command → conduct.fits command
  refl : ∀ course, conduct.passes course course
  trans : ∀ {course mid after}, conduct.passes course mid → conduct.passes mid after →
    conduct.passes course after
  asked : ∀ event course world, (event.addresses = true → conduct.mode = .blocking) →
    conduct.passes course { course with world := world, log := event :: course.log }
  changed : ∀ {course s}, s.pending = none ∨ s.pending = course.session.pending →
    conduct.passes course { course with session := s }
  restored : ∀ {course after}, conduct.passes course after →
    conduct.passes course { after with session := course.session }
  halts : ∀ halt, halt.blamesLink = false → conduct.bears (.error halt)
  reports : ∀ outcome, outcome.asks = false → ¬outcome.Malformed → conduct.bears (.ok outcome)
  prompts : ∀ prompt, conduct.mode = .nonBlocking → conduct.bears (.ok (.pending prompt))
  malformed : ∀ {text flaw}, conduct.fits (.malformed text flaw) →
    conduct.bears (.ok (.malformed text flaw))
  unreadable : ∀ {written error}, conduct.fits (.link written) → Link.read written = .error error →
    conduct.bears (.error (.refused (.invalidLink error)))
  closed : ∀ {s written link path document block}, conduct.here s → conduct.fits (.link written) →
    Link.read written = .ok link → path = link.resolve (s.path.getD "/") →
      conduct.document path document → n.entrance document link.block = .error block →
        conduct.bears (.error (.refused (.blockNotFound path block)))

end Conduct

/-- From wherever the conduct applies, the act ends as it may, and its result tells where the session
is left. -/
def Act.Conforms {World : Type} (conduct : Conduct World) (act : Act World Outcome) : Prop :=
  ∀ course, conduct.here course.session →
    course.session.Leads Session.Lingers (act course).1 (act course).2.session ∧
      conduct.Ends course (act course).1 (act course).2

/-- The act prepares a launch: the session stays, and what is found is of this kind. -/
def Act.Prepares {World α : Type} (conduct : Conduct World) (kind : α → Prop)
    (act : Act World α) : Prop :=
  ∀ course, conduct.here course.session → course.session.Lingers (act course).2.session ∧
    conduct.passes course (act course).2 ∧
      (∀ a, (act course).1 = .ok a → kind a) ∧
        ∀ halt, (act course).1 = .error halt → conduct.bears (.error halt)

/-! ## Acts that are put together -/

namespace Conduct.Suits

open Act Session

variable {World α β : Type} {n : Navigator World} {conduct : Conduct World}
  {course mid after : Course World} {result : Except Halt Outcome} {outcome : Outcome}
  {act : Act World Outcome} {next : Outcome → Act World Outcome} (suits : conduct.Suits n)

theorem of_run (conforms : act.Conforms conduct) (here : conduct.here course.session)
    (ran : act course = (result, after)) :
    course.session.Leads Lingers result after.session ∧ conduct.Ends course result after := by
  have ended := conforms course here
  rwa [ran] at ended

/-- Nothing is left pending where another launch begins. -/
theorem passes_of_ends (ends : conduct.Ends course (.ok outcome) after)
    (goes : outcome.interrupts = false ∨ conduct.mode = .blocking) : conduct.passes course after := by
  cases ends with
  | through _ passed => exact passed
  | waiting _ _ _ mode suspends =>
    rcases goes with goes | blocking
    · cases outcome <;> first | exact suspends.elim | cases goes
    · rw [blocking] at mode
      cases mode

/-- Where an act may leave something pending, it may be replaced. -/
theorem repend {pending : Pending} (ends : conduct.Ends course result after)
    (mode : conduct.mode = .nonBlocking) (suspends : Suspends result)
    (waits : conduct.Waits pending) : conduct.Ends course result (after.pend pending) := by
  have left {mid : Course World} (borne : conduct.bears result) (passed : conduct.passes course mid) :
      conduct.Ends course result (mid.pend pending) :=
    .waiting pending borne passed mode suspends waits
  cases ends with
  | through borne passed => exact left borne passed
  | waiting _ borne passed =>
    have replaced := left borne passed
    exact replaced

include suits

theorem prepend (passed : conduct.passes course mid) (ends : conduct.Ends mid result after) :
    conduct.Ends course result after := by
  cases ends with
  | through borne passed' => exact .through borne (suits.trans passed passed')
  | waiting pending borne passed' mode suspends waits =>
    exact .waiting pending borne (suits.trans passed passed') mode suspends waits

theorem bears_finish (followUp : FollowUp) (borne : conduct.bears (.ok outcome)) :
    conduct.bears (.ok (followUp.finish outcome)) := by
  have back : conduct.bears (.ok .back) := suits.reports _ rfl nofun
  unfold FollowUp.finish
  split
  · cases outcome with
    | abort | failed | pending => exact borne
    | empty | done | back | relocated => cases followUp.mode <;> assumption
  · exact borne

theorem ends_finish (followUp : FollowUp) (ends : conduct.Ends course (.ok outcome) after) :
    conduct.Ends course (.ok (followUp.finish outcome)) after := by
  cases ends with
  | through borne passed => exact .through (suits.bears_finish followUp borne) passed
  | waiting pending borne passed mode suspends waits =>
    refine .waiting pending (suits.bears_finish followUp borne) passed mode ?_ waits
    cases outcome with
    | pending | failed =>
      unfold FollowUp.finish
      split <;> trivial
    | _ => exact suspends.elim

theorem report (outcome : Outcome) (here : ∀ location, outcome ≠ .relocated location)
    (borne : conduct.bears (.ok outcome)) : (pure outcome : Act World Outcome).Conforms conduct :=
  fun course _ => ⟨Travels.pure lingers_dwelling here course, .through borne (suits.refl course)⟩

/-- What neither moves, asks nor reports a malformed instruction may be reported at any time. -/
theorem quiet (outcome : Outcome) (here : ∀ location, outcome ≠ .relocated location)
    (asks : outcome.asks = false) (sound : ¬outcome.Malformed) :
    (pure outcome : Act World Outcome).Conforms conduct :=
  suits.report outcome here (suits.reports outcome asks sound)

theorem failing {kind : ErrorKind} {message : String}
    (sound : ¬(Outcome.refused kind message).Malformed) :
    (pure (.refused kind message) : Act World Outcome).Conforms conduct :=
  suits.quiet _ nofun rfl sound

theorem value (value : Value) : (pure (.ofValue value) : Act World Outcome).Conforms conduct :=
  suits.quiet _ (Outcome.ofValue_ne_relocated value) (Outcome.asks_ofValue value)
    (Outcome.ofValue_not_malformed value)

theorem stop {halt : Halt} (stops : ∀ course, act course = (.error halt, course))
    (blameless : halt.blamesLink = false) : act.Conforms conduct := by
  intro course _
  rw [stops course]
  exact ⟨lingers_dwelling.refl _, .through (suits.halts halt blameless) (suits.refl course)⟩

theorem andThen {first : Act World α} {kind : α → Prop} {rest : α → Act World Outcome}
    (prepares : first.Prepares conduct kind) (conforms : ∀ a, kind a → (rest a).Conforms conduct) :
    (first >>= rest).Conforms conduct := by
  intro course here
  obtain ⟨stays, passed, found, borne⟩ := prepares course here
  rcases ran : first course with ⟨halt | a, mid⟩
  · rw [ran] at stays passed borne
    rw [bind_error ran]
    exact ⟨stays, .through (borne halt rfl) passed⟩
  · rw [ran] at stays passed found
    rw [bind_ok ran]
    obtain ⟨leads, ends⟩ := conforms a (found a rfl) mid (suits.stays here stays)
    exact ⟨leads.after lingers_dwelling stays, suits.prepend passed ends⟩

/-- After a launch the outcome is handed on with the follow-up applied, or else the launch has gone
through and another may begin. -/
theorem handOn (first : act.Conforms conduct)
    (rest : ∀ outcome, (∃ followUp : FollowUp, next outcome = pure (followUp.finish outcome)) ∨
      outcome.interrupts = false ∧ (next outcome).Conforms conduct) :
    (act >>= next).Conforms conduct := by
  intro course here
  rcases ran : act course with ⟨halt | outcome, mid⟩
  · rw [bind_error ran]
    exact of_run first here ran
  · rw [bind_ok ran]
    obtain ⟨leads, ends⟩ := of_run first here ran
    rcases rest outcome with ⟨followUp, same⟩ | ⟨goes, conforms⟩
    · rw [same]
      exact ⟨leads.finish followUp, suits.ends_finish followUp ends⟩
    · have stays := (Leads.of_settles (Outcome.settles_of_not_interrupts goes)).mp leads
      obtain ⟨leads, ended⟩ := conforms mid (suits.stays here stays)
      exact ⟨leads.after lingers_dwelling stays, suits.prepend (passes_of_ends ends (.inl goes)) ended⟩

theorem restoring (conforms : act.Conforms conduct) : (Act.restoring act).Conforms conduct := by
  intro course here
  rcases ran : act course with ⟨halt | outcome, after⟩
  · rw [error_restoring ran]
    refine ⟨lingers_dwelling.refl _, ?_⟩
    cases (of_run conforms here ran).2 with
    | through borne passed => exact .through borne (suits.restored passed)
    | waiting _ borne passed =>
      have taken := suits.restored passed
      exact .through borne taken
  · rw [ok_restoring ran]
    exact of_run conforms here ran

/-! ## Requests -/

theorem found (a : α) {kind : α → Prop} (here : kind a) :
    (pure a : Act World α).Prepares conduct kind := by
  refine fun course _ => ⟨lingers_dwelling.refl _, suits.refl course, fun b same => ?_, nofun⟩
  cases same
  exact here

theorem halt {first : Act World α} {kind : α → Prop} {halt : Halt}
    (stops : ∀ course, first course = (.error halt, course)) (blameless : halt.blamesLink = false) :
    first.Prepares conduct kind := by
  intro course _
  rw [stops course]
  refine ⟨lingers_dwelling.refl _, suits.refl course, nofun, fun _ same => ?_⟩
  cases same
  exact suits.halts halt blameless

theorem ask (request : StateM World α) {event : α → Event}
    (unaddressed : ∀ a, (event a).addresses = true → conduct.mode = .blocking) :
    (Act.ask request event).Prepares conduct fun _ => True :=
  fun course _ => ⟨lingers_dwelling.refl _, suits.asked _ course _ (unaddressed _),
    fun _ _ => trivial, nofun⟩

theorem session : (Act.session : Act World Session).Prepares conduct conduct.here := by
  refine fun course here => ⟨lingers_dwelling.refl _, suits.refl course, fun s same => ?_, nofun⟩
  cases same
  exact here

theorem prepare {first : Act World α} {kind : α → Prop} {other : β → Prop} {rest : α → Act World β}
    (prepares : first.Prepares conduct kind)
    (further : ∀ a, kind a → (rest a).Prepares conduct other) :
    (first >>= rest).Prepares conduct other := by
  intro course here
  obtain ⟨stays, passed, found, borne⟩ := prepares course here
  rcases ran : first course with ⟨halt | a, mid⟩
  · rw [ran] at stays passed borne
    rw [bind_error ran]
    refine ⟨stays, passed, nofun, fun _ same => ?_⟩
    cases same
    exact borne halt rfl
  · rw [ran] at stays passed found
    rw [bind_ok ran]
    obtain ⟨stays', passed', rest⟩ := further a (found a rfl) mid (suits.stays here stays)
    exact ⟨stays.trans stays', suits.trans passed passed', rest⟩

theorem attempt {first : Act World α} {kind : α → Prop} (prepares : first.Prepares conduct kind) :
    (Act.attempt first).Prepares conduct fun _ => True := by
  intro course here
  obtain ⟨stays, passed, _, _⟩ := prepares course here
  unfold Act.attempt
  rcases ran : first course with ⟨(error | _) | a, mid⟩
  all_goals rw [ran] at stays passed
  · exact ⟨stays, passed, fun _ _ => trivial, nofun⟩
  · refine ⟨stays, passed, nofun, fun _ same => ?_⟩
    cases same
    exact suits.halts _ rfl
  · exact ⟨stays, passed, fun _ _ => trivial, nofun⟩

theorem load (path : String) : (n.load path).Prepares conduct (conduct.document path) := by
  intro course _
  have passed := suits.asked (.loaded path) course (n.host.load path course.world).2 nofun
  refine ⟨?_, ?_, fun document loaded => suits.loads path course document loaded, fun halt failed => ?_⟩
  · rw [n.load_still path course]
    exact lingers_dwelling.refl _
  · rw [n.load_run]
    exact passed
  · rw [n.load_run] at failed
    cases answer : (n.host.load path course.world).1 with
    | ok document =>
      rw [answer] at failed
      cases failed
    | error error =>
      rw [answer] at failed
      cases failed
      exact suits.halts _ (LoadError.refusal_blamesLink error)

theorem request {request : Request}
    (unaddressed : request.collaborator = .dialogs → conduct.mode = .blocking) :
    (n.request request).Prepares conduct fun _ => True := by
  refine suits.prepare suits.session fun s _ => suits.prepare (suits.ask _ fun _ dialog => ?_)
    fun _ _ => suits.found _ trivial
  exact unaddressed (of_decide_eq_true dialog)

theorem talk (blocking : conduct.mode = .blocking) :
    (∀ view, (n.render view).Prepares conduct fun _ => True) ∧
      (∀ payload, (n.display payload).Prepares conduct fun _ => True) ∧
        ∀ message, (n.prompt message).Prepares conduct fun _ => True :=
  ⟨fun _ => suits.ask _ fun _ _ => blocking, fun _ => suits.ask _ fun _ _ => blocking,
    fun _ => suits.ask _ fun _ _ => blocking⟩

theorem ifBlocking {next : Bool → Act World Outcome}
    (shown : conduct.mode = .blocking → (next true).Conforms conduct)
    (unshown : conduct.mode = .nonBlocking → (next false).Conforms conduct) :
    (Navigator.isBlocking >>= next).Conforms conduct := by
  intro course here
  cases mode : conduct.mode with
  | blocking =>
    rw [bind_ok (Navigator.isBlocking_blocking ((suits.moded here).trans mode))]
    exact shown mode course here
  | nonBlocking =>
    rw [bind_ok (Navigator.isBlocking_nonBlocking ((suits.moded here).trans mode))]
    exact unshown mode course here

end Conduct.Suits

end Signpost
