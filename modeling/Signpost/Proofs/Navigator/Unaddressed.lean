import Signpost.Proofs.Navigator.Conforming

/-! Who waits for whom.

In non-blocking mode the user is never addressed: what has to be asked is left pending, and what has
to be shown is answered. In blocking mode it is the other way round, and nothing is left pending. -/

namespace Signpost

/-- Whatever has been logged meanwhile, it is not addressed to the user. -/
def Course.Unaddressed {World : Type} (course after : Course World) : Prop :=
  ∃ recent, after.log = recent ++ course.log ∧ ∀ event ∈ recent, event.addresses = false

namespace Course.Unaddressed

variable {World : Type} {course mid after : Course World}

theorem of_log (same : after.log = course.log) : course.Unaddressed after := ⟨[], same, nofun⟩

theorem of_event {event : Event} (logged : after.log = event :: course.log)
    (silent : event.addresses = false) : course.Unaddressed after :=
  ⟨[event], logged, by simpa using silent⟩

theorem trans (first : course.Unaddressed mid) (second : mid.Unaddressed after) :
    course.Unaddressed after := by
  obtain ⟨earlier, logged, silent⟩ := first
  obtain ⟨later, logged', silent'⟩ := second
  refine ⟨later ++ earlier, by rw [logged', logged, List.append_assoc], fun event member => ?_⟩
  exact (List.mem_append.mp member).elim (silent' event) (silent event)

end Course.Unaddressed

namespace Conduct

variable {World : Type} (n : Navigator World)

def unaddressed (World : Type) : Conduct World where
  mode := .nonBlocking
  here s := s.mode = .nonBlocking
  passes := Course.Unaddressed

def attended (World : Type) : Conduct World where
  mode := .blocking
  here s := s.mode = .blocking
  passes := Course.Settles
  bears result := ∀ prompt, result ≠ .ok (.pending prompt)

theorem unaddressed_suits : (unaddressed World).Suits n where
  moded := id
  stays here lingers := lingers.sameFrame.mode.trans here
  loads _ _ _ _ := trivial
  entry _ _ _ _ _ := trivial
  element _ _ _ := trivial
  option _ _ _ _ := trivial
  back := trivial
  target _ _ _ _ _ := trivial
  refl _ := .of_log rfl
  trans := .trans
  asked event _ _ spared := by
    refine .of_event rfl ?_
    cases addressed : event.addresses with
    | false => rfl
    | true => cases spared addressed
  changed _ := .of_log rfl
  restored passed := passed
  halts _ _ := trivial
  reports _ _ _ := trivial
  prompts _ _ := trivial
  malformed _ := trivial
  unreadable _ _ := trivial
  closed _ _ _ _ _ _ := trivial

theorem attended_suits : (attended World).Suits n where
  moded := id
  stays here lingers := lingers.sameFrame.mode.trans here
  loads _ _ _ _ := trivial
  entry _ _ _ _ _ := trivial
  element _ _ _ := trivial
  option _ _ _ _ := trivial
  back := trivial
  target _ _ _ _ _ := trivial
  refl _ := .inr rfl
  trans := .trans
  asked _ _ _ _ := .inr rfl
  changed settles := settles
  restored _ := .inr rfl
  halts _ _ := nofun
  reports outcome asks _ prompt same := by
    cases same
    cases asks
  prompts _ mode := by cases mode
  malformed _ := nofun
  unreadable _ _ := nofun
  closed _ _ _ _ _ _ := nofun

theorem unaddressed_waits (pending : Pending) : (unaddressed World).Waits pending := by
  cases pending with
  | menu pending => exact fun _ _ => trivial
  | retry pending => trivial

theorem unaddressed_of_ends {course after : Course World} {result : Except Halt Outcome}
    (ends : (unaddressed World).Ends course result after) : course.Unaddressed after := by
  cases ends with
  | through _ passed => exact passed
  | waiting _ _ passed => exact passed

theorem settled_of_ends {course after : Course World} {outcome : Outcome}
    (ends : (attended World).Ends course.unasked (.ok outcome) after) :
    outcome.asks = false ∧ after.session.pending = none := by
  cases ends with
  | through borne passed =>
    refine ⟨?_, passed.elim id id⟩
    cases outcome with
    | pending prompt => exact absurd rfl (borne prompt)
    | _ => rfl
  | waiting _ _ _ mode => cases mode

end Conduct

namespace Navigator

open Act

variable {World : Type} (n : Navigator World) {course after : Course World}

theorem start_log (path : String) (course : Course World) :
    (n.start path course).2.log = .loaded path :: course.log := by
  have loaded := n.load_run path course
  unfold start
  cases answer : (n.host.load path course.world).1 with
  | error error =>
    rw [answer] at loaded
    rw [bind_error loaded]
  | ok document =>
    rw [answer] at loaded
    rw [bind_ok loaded]
    cases document.defaultBlock? n.settings.defaultBlock <;> rfl

/-- Whatever is pending, no call addresses the user. -/
theorem perform_unaddressed (mode : course.session.mode = .nonBlocking) (call : Call) :
    course.Unaddressed (n.perform call course).2 := by
  have suits := Conduct.unaddressed_suits n
  have ended {act : Act World Outcome} (conforms : act.Conforms (Conduct.unaddressed World)) :
      course.Unaddressed (act course).2 :=
    Conduct.unaddressed_of_ends (conforms course mode).2
  cases call with
  | start path =>
    rw [n.perform_start]
    exact .of_event (n.start_log path course) rfl
  | dispatch key value => exact ended (suits.dispatch key value fun _ _ => trivial)
  | dispatchKey key => exact ended (suits.dispatchKey key)
  | launch command => exact ended (suits.launch trivial)
  | resume line =>
    have known (pending : Pending) (_ : course.session.pending = some pending) :
        (Conduct.unaddressed World).mode = .nonBlocking ∧
          (Conduct.unaddressed World).Waits pending := ⟨rfl, Conduct.unaddressed_waits pending⟩
    rcases ran : n.resume line course with ⟨result, after⟩
    have passed := Conduct.unaddressed_of_ends (suits.resume mode known ran).2
    change course.Unaddressed (n.resume line course).2
    rw [ran]
    exact passed
  | goBack => exact .of_log rfl

/-- However deep it nests, and whatever was pending before. -/
theorem dispatchWithin_settled (mode : course.session.mode = .blocking) {depth : Nat} {key : String}
    {value : Value} {outcome : Outcome}
    (dispatched : n.dispatchWithin depth key value course = (.ok outcome, after)) :
    outcome.asks = false ∧ after.session.pending = none :=
  Conduct.settled_of_ends
    ((Conduct.attended_suits n).dispatchWithin_unasked mode (fun _ _ => trivial) dispatched)

theorem dispatchKey_settled (mode : course.session.mode = .blocking) {key : String}
    {outcome : Outcome} (dispatched : n.dispatchKey key course = (.ok outcome, after)) :
    outcome.asks = false ∧ after.session.pending = none := by
  obtain ⟨_, _, ends⟩ := (Conduct.attended_suits n).dispatchKey_unasked mode dispatched
  exact Conduct.settled_of_ends ends

/-- Either the user is never addressed or nothing is ever left pending, as the mode says. -/
theorem modes_exclusive (n : Navigator World) (course : Course World) :
    (course.session.mode = .nonBlocking → ∀ call, course.Unaddressed (n.perform call course).2) ∧
    (course.session.mode = .blocking → ∀ depth key value outcome after,
      n.dispatchWithin depth key value course = (.ok outcome, after) ∨
          n.dispatch key value course = (.ok outcome, after) ∨
            n.dispatchKey key course = (.ok outcome, after) →
        (∀ prompt, outcome ≠ .pending prompt) ∧ after.session.pending = none) := by
  refine ⟨fun mode call => n.perform_unaddressed mode call, ?_⟩
  intro mode depth key value outcome after dispatched
  have settled : outcome.asks = false ∧ after.session.pending = none := by
    rcases dispatched with within | whole | named
    · exact n.dispatchWithin_settled mode within
    · exact n.dispatchWithin_settled mode whole
    · exact n.dispatchKey_settled mode named
  refine ⟨fun prompt same => ?_, settled.2⟩
  rw [same] at settled
  cases settled.1

open Sample in
/-- The same menu is left pending where the client cannot wait, and else asked until the key that it
names has failed once and gone through. -/
theorem modes_exclusive_pick :
    (visit .nonBlocking [] []).Unaddressed
        (navigator.perform (.dispatchKey "pick") (visit .nonBlocking [] [])).2 ∧
      ∃ outcome after, navigator.dispatchKey "pick" busy = (.ok outcome, after) ∧
        (∀ prompt, outcome ≠ .pending prompt) ∧ after.session.pending = none := by
  have went : (navigator.dispatchKey "pick" busy).1.isOk = true := by decide +kernel
  obtain ⟨outcome, ran⟩ := run_of_isOk went
  exact ⟨(modes_exclusive navigator (visit .nonBlocking [] [])).1 rfl (.dispatchKey "pick"),
    outcome, _, ran, (modes_exclusive navigator busy).2 rfl 0 "pick" .null outcome _ (.inr (.inr ran))⟩

end Navigator

end Signpost
