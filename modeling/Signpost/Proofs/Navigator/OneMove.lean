import Signpost.Proofs.Navigator.Call
import Signpost.Proofs.Navigator.Refusal
import Signpost.Proofs.Navigator.Travel

/-! One dispatch navigates at most once.

Dispatches nest and required commands are launched again, but an inner launch that has moved the
session ends every composite around it. What a call answers therefore accounts for everything that
has become of the session, pending input aside. -/

namespace Signpost

/-- The course in which the command of a key is launched: nothing is pending any more, and an
anchored key has left its mark. -/
def Course.prepared {World : Type} (anchor : Bool) (course : Course World) : Course World :=
  { course with session := course.session.clearPending.anchoredIf anchor }

namespace Navigator

open Act Session

variable {World : Type} (n : Navigator World)

/-! ## Dispatching -/

section Dispatch

variable {stay : Session → Session → Prop}

/-- Only failed launches are repeated, and a failed launch has settled. -/
theorem launchRequired_travels (waiting : Waiting stay) {launch : Act World Outcome}
    (launched : launch.Travels stay) (key : String) (command : Command) (followUp : FollowUp)
    (rounds attempts : Nat) :
    (n.launchRequired launch key command followUp rounds attempts).Travels stay := by
  have dwelling := waiting.toDwelling
  induction rounds generalizing attempts with
  | zero => exact Travels.exhaust dwelling
  | succ rounds ih =>
    refine Travels.handOn dwelling launched fun outcome => ?_
    cases outcome with
    | failed failure =>
      refine .inr ⟨rfl, ?_⟩
      dsimp only
      split
      next => exact Travels.pure dwelling nofun
      next =>
        split
        next => exact Travels.pend waiting _ nofun
        next => exact Travels.afterStill dwelling (n.display_still _) fun _ => ih (attempts + 1)
    | _ => exact .inl ⟨.plain .blocking, rfl⟩

theorem keepingPending_travels (waiting : Waiting stay) {act : Act World Outcome}
    (travels : act.Travels stay) (pending : Pending) :
    (keepingPending pending act).Travels stay := by
  intro course
  unfold keepingPending
  split
  next halt after halted => exact waiting.trans (travels.of_run halted) (waiting.pending _ _)
  next => exact travels course

end Dispatch

variable {nested : String → Value → Act World Outcome}

/-- A key is launched in four steps, two of which its marks may leave out. -/
theorem launchKey_eq (key : String) (followUp : FollowUp) (command : Command) :
    n.launchKey nested key followUp command =
      (Act.modifySession Session.clearPending >>= fun _ =>
        (if followUp.anchor then Act.modifySession fun session => session.checkpoint.2
          else pure ()) >>= fun _ =>
        (if followUp.required then
          n.launchRequired (n.launchWith nested key followUp command) key command followUp
            n.patience.rounds 0
          else n.launchWith nested key followUp command) >>= fun outcome =>
        pure (followUp.finish outcome)) := by
  unfold launchKey
  cases followUp.anchor <;> cases followUp.required <;> rfl

theorem launchKey_run (key : String) (followUp : FollowUp) (command : Command)
    (course : Course World) : n.launchKey nested key followUp command course =
      ((if followUp.required then
          n.launchRequired (n.launchWith nested key followUp command) key command followUp
            n.patience.rounds 0
        else n.launchWith nested key followUp command) >>= fun outcome =>
        pure (followUp.finish outcome)) (course.prepared followUp.anchor) := by
  rw [launchKey_eq]
  unfold Course.prepared
  cases followUp.anchor <;> rfl

theorem launchKey_travels (inner : ∀ key value, (nested key value).Travels Lingers) (key : String)
    (followUp : FollowUp) (command : Command) :
    (n.launchKey nested key followUp command).Travels Lingers := by
  have launched := n.launchWith_travels lingers_waiting.suspending
    (fun key value => (inner key value).placed) key followUp command
  rw [launchKey_eq]
  refine Travels.after lingers_dwelling
    (Keeps.modifySession fun s => lingers_waiting.pending s none) fun _ => ?_
  refine Travels.after lingers_dwelling ?anchored fun _ => ?_
  case anchored =>
    split
    · exact Keeps.modifySession lingers_checkpoint
    · exact .of_still lingers_dwelling.refl (Still.pure _)
  refine Travels.handOn lingers_dwelling ?_ fun outcome => .inl ⟨followUp, rfl⟩
  split
  · exact n.launchRequired_travels lingers_waiting launched key command followUp _ _
  · exact launched

theorem dispatchWith_travels (inner : ∀ key value, (nested key value).Travels Lingers)
    (key : String) (value : Value) : (n.dispatchWith nested key value).Travels Lingers := by
  refine Travels.afterStill lingers_dwelling Still.session fun session => ?_
  split
  split
  next => exact Travels.refuse lingers_dwelling _
  next => exact Travels.restoring lingers_dwelling (n.launchKey_travels inner _ _ _)

/-- However deep dispatches nest. -/
theorem dispatchWithin_travels (depth : Nat) (key : String) (value : Value) :
    (n.dispatchWithin depth key value).Travels Lingers := by
  induction depth generalizing key value with
  | zero => exact Travels.exhaust lingers_dwelling
  | succ depth ih => exact n.dispatchWith_travels ih key value

theorem dispatch_travels (key : String) (value : Value) :
    (n.dispatch key value).Travels Lingers :=
  n.dispatchWithin_travels _ key value

theorem dispatch_travels_placed (key : String) (value : Value) :
    (n.dispatch key value).TravelsPlaced Lingers :=
  (n.dispatch_travels key value).placed

theorem dispatchKey_travels (key : String) : (n.dispatchKey key).Travels Lingers := by
  refine Travels.afterStill lingers_dwelling n.currentDocument_still fun found => ?_
  split
  split
  next => exact Travels.refuse lingers_dwelling _
  next => exact n.dispatch_travels _ _

theorem launch_travels (command : Command) : (n.launch command).Travels Lingers :=
  Travels.afterStill lingers_dwelling Still.session fun _ =>
    n.launchWith_travels lingers_waiting.suspending n.dispatch_travels_placed _ _ command

/-! ## Resuming -/

theorem retry_travels (pending : PendingRetry) : (n.retry pending).Travels Lingers := by
  have launched := n.launchWith_travels lingers_waiting.suspending n.dispatch_travels_placed
    pending.key pending.followUp pending.command
  have kept := keepingPending_travels lingers_waiting (launched.restoring lingers_dwelling)
    (.retry pending)
  refine Travels.handOn lingers_dwelling kept fun outcome => ?_
  by_cases failed : outcome.isFailure = true
  · refine .inr ⟨Outcome.settles_of_isFailure failed, ?_⟩
    have here := Outcome.ne_relocated_of_isFailure failed
    rw [if_neg (by simp [failed])]
    split
    · exact Travels.pure lingers_dwelling here
    · exact Travels.pend lingers_waiting _ here
  · exact .inl ⟨pending.followUp, if_pos (by simpa using failed)⟩

theorem answer_travels (pending : PendingMenu) (line : String) :
    (n.answer pending line).Travels Lingers := by
  unfold answer
  split
  next => exact Travels.pend lingers_waiting _ nofun
  next => exact Travels.pend lingers_waiting _ nofun
  next selection _ _ =>
    have selected := n.select_travels lingers_dwelling n.dispatch_travels_placed selection
    have kept := keepingPending_travels lingers_waiting selected (.menu pending)
    refine Travels.handOn lingers_dwelling kept fun outcome => ?_
    by_cases again : (pending.followUp.required && outcome.isFailure) = true
    · have failed : outcome.isFailure = true := (Bool.and_eq_true _ _ ▸ again).2
      refine .inr ⟨Outcome.settles_of_isFailure failed, ?_⟩
      rw [if_pos again]
      exact Travels.pend lingers_waiting _ (Outcome.ne_relocated_of_isFailure failed)
    · exact .inl ⟨pending.followUp, if_neg again⟩

theorem resume_travels (line : String) : (n.resume line).Travels Lingers := by
  refine Travels.afterStill lingers_dwelling Still.session fun session => ?_
  refine Travels.after lingers_dwelling
    (Keeps.modifySession fun s => lingers_waiting.pending s none) fun _ => ?_
  split
  next => exact Travels.pure lingers_dwelling nofun
  next pending _ => exact n.retry_travels pending
  next pending _ => exact n.answer_travels pending line

end Navigator

/-! ## The account of an answer -/

/-- What an outcome says of the session before the call and the session after it. Under the
auto-return mark the way back may stand for a move. -/
def Outcome.Accounts (s s' : Session) : Outcome → Prop
  | relocated location => s.Arrives location s'
  | back => s.Remains s' ∨ ∃ location, s.Arrives location s'
  | empty | done _ | failed _ | abort | pending _ => s.Remains s'

theorem Session.Leads.accounts {s s' : Session} {outcome : Outcome}
    (leads : s.Leads Session.Lingers (.ok outcome) s') :
    s.SameFrame s' ∧ outcome.Accounts s s' := by
  cases outcome with
  | relocated location => exact ⟨leads.sameFrame, leads.arrives⟩
  | back =>
    rcases leads with lingers | ⟨location, moves⟩
    · exact ⟨lingers.sameFrame, .inl lingers.remains⟩
    · exact ⟨moves.sameFrame, .inr ⟨location, moves.arrives⟩⟩
  | _ => exact ⟨Session.Lingers.sameFrame leads, Session.Lingers.remains leads⟩

namespace Navigator

variable {World : Type} (n : Navigator World)

theorem perform_travels {call : Call} (launches : call.launches = true) :
    (n.perform call).Travels Session.Lingers := by
  cases call with
  | start | goBack => cases launches
  | dispatch key value => exact n.dispatch_travels key value
  | dispatchKey key => exact n.dispatchKey_travels key
  | launch command => exact n.launch_travels command
  | resume line => exact n.resume_travels line

/-- A call that launches commands moves the session once or not at all, and its answer tells which.
Nothing but the place, the active trail, the history and pending input ever changes. -/
theorem answer_accounts {call : Call} (launches : call.launches = true)
    {course after : Course World} {outcome : Outcome}
    (answered : n.perform call course = (.ok outcome, after)) :
    course.session.SameFrame after.session ∧ outcome.Accounts course.session after.session :=
  ((n.perform_travels launches).of_run answered).accounts

instance decidableRelocated (result : Except Halt Outcome) (location : Location) :
    Decidable (result = .ok (.relocated location)) :=
  match result with
  | .ok (.relocated other) =>
      if same : other = location then .isTrue (same ▸ rfl)
      else .isFalse fun equal => same (Outcome.relocated.inj (Except.ok.inj equal))
  | .ok .empty | .ok (.done _) | .ok (.failed _) | .ok .back | .ok .abort | .ok (.pending _)
  | .error _ => .isFalse nofun

namespace Sample

def seasoned : Course Script :=
  let course := visit .blocking ["note", "leave"] []
  { course with session := { course.session with
    history := ⟨List.replicate 50 ⟨⟨"/app", "main"⟩, "start", .epoch⟩⟩ } }

end Sample

open Sample in
/-- The second menu moves, after the first has launched an anchored key, and the oldest entry makes
room for the move. -/
theorem answer_accounts_trip :
    ∃ after, navigator.perform (.dispatchKey "trip") seasoned =
        (.ok (.relocated ⟨"/app", "end"⟩), after) ∧
      seasoned.session.Arrives ⟨"/app", "end"⟩ after.session ∧
      after.session.history.entries = List.replicate 49 ⟨⟨"/app", "main"⟩, "start", .epoch⟩ ++
        [⟨⟨"/app", "end"⟩, "link .end", .epoch⟩] := by
  have moved : (navigator.perform (.dispatchKey "trip") seasoned).1 =
      .ok (.relocated ⟨"/app", "end"⟩) := by
    decide +kernel
  have logged : (navigator.perform (.dispatchKey "trip") seasoned).2.session.history.entries =
      List.replicate 49 ⟨⟨"/app", "main"⟩, "start", .epoch⟩ ++
        [⟨⟨"/app", "end"⟩, "link .end", .epoch⟩] := by
    decide +kernel
  have answered := Act.run_ok moved
  have launches : (Call.dispatchKey "trip").launches = true := rfl
  exact ⟨_, answered, (navigator.answer_accounts launches answered).2, logged⟩

end Navigator

end Signpost
