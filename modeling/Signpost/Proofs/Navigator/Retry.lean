import Signpost.Proofs.Navigator.Action
import Signpost.Proofs.Scripted

/-! Required actions, launched again until they do not fail.

In blocking mode one dispatch launches the action as often as it takes; in non-blocking mode each
launch is a call of its own, and the session counts them. Both count the same launches: those up to
the first reply that is no failure, or as many as the limit admits. -/

namespace Signpost

/-- The launch that ends a required action, counted from zero: those before it fail, and it does not
fail or is the last one that the limit admits. Zero is no limit. -/
structure EndsAt (limit : Nat) (replies : Nat → Except String Reply) (last : Nat) : Prop where
  failing : ∀ i < last, (Outcome.ofReply (replies i)).isFailure = true
  within : limit ≠ 0 → last < limit
  ended : (Outcome.ofReply (replies last)).isFailure = false ∨ limit = last + 1

theorem Decorations.autoMenu_of_required {d : Decorations} (required : d.required = true) :
    d.autoMenu = false := by
  have trailing : d.trailing = some .required := eq_of_beq required
  unfold autoMenu
  rw [trailing]
  rfl

namespace Navigator

open Act Session

variable {World : Type} (n : Navigator World) {course mid : Course World} {outcome : Outcome}
  {request : Request} {command : Command} {upcoming : World → Nat → Except String Reply}
  {replies : Nat → Except String Reply} {last : Nat}

/-- Whether a required command is launched again after so many launches. -/
def insists (attempts : Nat) (outcome : Outcome) : Bool :=
  outcome.isFailure && !n.isGivenUp attempts

/-- Of the launches up to the last one exactly those before it are followed by another. -/
theorem insists_eq (ends : EndsAt n.settings.retryLimit replies last) {j : Nat}
    (bounded : j ≤ last) : n.insists (j + 1) (.ofReply (replies j)) = decide (j < last) := by
  rcases Nat.lt_or_eq_of_le bounded with earlier | rfl
  · have admitted : n.isGivenUp (j + 1) = false := by
      have within := ends.within
      simp only [isGivenUp, Bool.and_eq_false_imp, bne_iff_ne, ne_eq, decide_eq_false_iff_not]
      intro limited
      have := within limited
      omega
    simp [insists, ends.failing j earlier, admitted, earlier]
  · rcases ends.ended with succeeded | limit
    · simp [insists, succeeded]
    · simp [insists, isGivenUp, limit]

section Replies

variable (answers : n.host.Replies request upcoming)

include answers

theorem asked_replies (i : Nat) :
    upcoming (n.asked request course).world i = upcoming course.world (i + 1) :=
  answers.next course.session course.world i

theorem display_replies (payload : Payload) (i : Nat) :
    upcoming (n.display payload course).2.world i = upcoming course.world i :=
  answers.shown payload course.world i

theorem launch_replies (action : command.request? = some request) {j : Nat}
    (queued : ∀ i, upcoming course.world i = replies (i + j))
    (nested : String → Value → Act World Outcome) (key : String) (followUp : FollowUp) :
    n.launchWith nested key followUp command course =
      (.ok (.ofReply (replies j)), n.asked request course) := by
  rw [n.launchWith_of_request action, replyTo, answers.first, queued, Nat.zero_add]

end Replies

/-! ## In blocking mode -/

section Blocking

variable {launch : Act World Outcome} {followUp : FollowUp}

theorem launchRequired_blocking (mode : followUp.mode = .blocking)
    (launched : launch course = (.ok outcome, mid)) (key : String) (rounds attempts : Nat) :
    n.launchRequired launch key command followUp (rounds + 1) attempts course =
      if n.insists (attempts + 1) outcome then
        n.launchRequired launch key command followUp rounds (attempts + 1)
          (n.display (.message outcome.complaint) mid).2
      else (.ok outcome, mid) := by
  refine (bind_ok launched).trans ?_
  cases outcome with
  | failed failure =>
    have waits : followUp.mode ≠ .nonBlocking := by
      rw [mode]
      exact nofun
    cases givenUp : n.isGivenUp (attempts + 1) with
    | true =>
      simp only [insists, givenUp]
      rfl
    | false =>
      simp only [insists, givenUp]
      rw [if_neg Bool.false_ne_true, if_neg waits]
      rfl
  | _ => rfl

/-- The loop, from the launch numbered `j` on: `left` more failures come before the last launch. -/
theorem launchRequired_ends (answers : n.host.Replies request upcoming)
    (ends : EndsAt n.settings.retryLimit replies last) (action : command.request? = some request)
    (mode : followUp.mode = .blocking) (nested : String → Value → Act World Outcome) (key : String)
    {left j rounds : Nat} (here : j + left = last) (enough : left < rounds)
    (queued : ∀ i, upcoming course.world i = replies (i + j)) :
    ∃ after, n.launchRequired (n.launchWith nested key followUp command) key command followUp
        rounds j course = (.ok (.ofReply (replies last)), after) ∧
      after.requests = List.replicate (left + 1) request ++ course.requests ∧
      after.shown = ((List.range' j left).map fun i =>
        Payload.message (Outcome.ofReply (replies i)).complaint).reverse ++ course.shown := by
  induction left generalizing j rounds course with
  | zero =>
    obtain ⟨rounds, rfl⟩ := Nat.exists_eq_add_one.mpr (Nat.zero_lt_of_lt enough)
    obtain rfl : j = last := here
    have launched := n.launch_replies answers action queued nested key followUp
    have stops : n.insists (j + 1) (.ofReply (replies j)) = false := by
      simp [n.insists_eq ends le_rfl]
    refine ⟨n.asked request course, ?_, n.asked_requests, n.asked_shown⟩
    rw [n.launchRequired_blocking mode launched, stops]
    exact if_neg Bool.false_ne_true
  | succ left ih =>
    obtain ⟨rounds, rfl⟩ := Nat.exists_eq_add_one.mpr (Nat.zero_lt_of_lt enough)
    have launched := n.launch_replies answers action queued nested key followUp
    have again : n.insists (j + 1) (.ofReply (replies j)) = true := by
      simp [n.insists_eq ends (show j ≤ last by omega), show j < last by omega]
    -- the complaint takes no reply from the queue, and the request one
    have later : ∀ i, upcoming (n.display (.message (Outcome.ofReply (replies j)).complaint)
        (n.asked request course)).2.world i = replies (i + (j + 1)) := by
      intro i
      rw [n.display_replies answers, n.asked_replies answers, queued]
      congr 1
      omega
    have fewer : left < rounds := by omega
    obtain ⟨after, ran, requests, shown⟩ := ih (by omega) fewer later
    refine ⟨after, ?_, ?_, ?_⟩
    · rw [n.launchRequired_blocking mode launched, again, if_pos rfl]
      exact ran
    · rw [requests, List.replicate_succ' (n := left + 1)]
      exact List.append_cons ..
    · rw [shown, List.range'_succ, List.map_cons, List.reverse_cons]
      exact List.append_cons ..

end Blocking

/-! ## In non-blocking mode -/

section NonBlocking

variable {launch : Act World Outcome} {followUp : FollowUp}

/-- The course after one more launch of a required command: it waits if it is launched again. -/
def suspended (pending : PendingRetry) (outcome : Outcome) (course : Course World) : Course World :=
  if n.insists pending.attempts outcome then course.pend (.retry pending) else course

theorem suspended_world (pending : PendingRetry) :
    (n.suspended pending outcome course).world = course.world := by
  unfold suspended
  split <;> rfl

theorem suspended_requests (pending : PendingRetry) :
    (n.suspended pending outcome course).requests = course.requests := by
  unfold suspended
  split <;> rfl

theorem suspended_pending (ends : EndsAt n.settings.retryLimit replies last) {j : Nat}
    (bounded : j ≤ last) (idle : course.session.pending = none) {pending : PendingRetry}
    (launches : pending.attempts = j + 1) :
    (n.suspended pending (.ofReply (replies j)) course).session.pending =
      if j < last then some (.retry pending) else none := by
  unfold suspended
  rw [launches, n.insists_eq ends bounded]
  by_cases earlier : j < last
  · simp [earlier, Course.pend, Session.setPending]
  · simp [earlier, idle]

theorem launchRequired_nonBlocking (mode : followUp.mode = .nonBlocking)
    (launched : launch course = (.ok outcome, mid)) (key : String) (rounds attempts : Nat) :
    n.launchRequired launch key command followUp (rounds + 1) attempts course =
      (.ok outcome, n.suspended ⟨key, command, followUp, attempts + 1⟩ outcome mid) := by
  refine (bind_ok launched).trans ?_
  unfold suspended insists
  cases outcome with
  | failed failure =>
    cases givenUp : n.isGivenUp (attempts + 1) with
    | true => rfl
    | false =>
      dsimp only
      rw [if_neg Bool.false_ne_true, if_pos mode]
      rfl
  | _ => rfl

theorem retry_run {pending : PendingRetry} (same : pending.followUp.finish outcome = outcome)
    (launched : n.launchWith n.dispatch pending.key pending.followUp pending.command course =
      (.ok outcome, mid)) :
    n.retry pending course = (.ok outcome,
      n.suspended { pending with attempts := pending.attempts + 1 } outcome mid) := by
  unfold suspended insists
  cases failed : outcome.isFailure with
  | false =>
    rw [n.retry_of_success launched failed, same]
    rfl
  | true =>
    rw [n.retry_of_failure launched failed]
    cases n.isGivenUp (pending.attempts + 1) <;> rfl

end NonBlocking

/-! ## Both modes -/

/-- A required key whose action does not return by itself. -/
structure Requires (key : String) (value : Value) (command : Command) (request : Request) :
    Prop where
  required : (Key.read key).2.required = true
  stays : (Key.read key).2.autoReturn = false
  classified : Command.classify value = .ok command
  action : command.request? = some request

/-- A dispatch of a key, and then answers, whatever their lines are. -/
def insist (key : String) (value : Value) (lines : Nat → String) : Nat → Call
  | 0 => .dispatch key value
  | j + 1 => .resume (lines j)

/-- The calls before the launch numbered `j`. -/
def insistence (key : String) (value : Value) (lines : Nat → String) (j : Nat) : List Call :=
  (List.range j).map (insist key value lines)

theorem insistence_succ (key : String) (value : Value) (lines : Nat → String) (j : Nat) :
    insistence key value lines (j + 1) =
      insistence key value lines j ++ [insist key value lines j] := by
  simp [insistence, List.range_succ]

def waiting (key : String) (command : Command) (attempts : Nat) : PendingRetry :=
  ⟨(Key.read key).1, command, ⟨(Key.read key).2, .nonBlocking⟩, attempts⟩

def Awaited (key : String) (command : Command) (s : Session) : Nat → Prop
  | 0 => s.mode = .nonBlocking
  | j + 1 => s.pending = some (.retry (waiting key command (j + 1)))

theorem dispatch_of_required {key : String} {value : Value}
    (required : (Key.read key).2.required = true) (classified : Command.classify value = .ok command)
    {depth : Nat} (deep : n.patience.depth = depth + 1) {mode : Mode}
    (here : course.session.mode = mode) :
    n.dispatch key value course = Act.restoring (fun course =>
      (n.launchRequired
          (n.launchWith (n.dispatchWithin depth) (Key.read key).1 ⟨(Key.read key).2, mode⟩ command)
          (Key.read key).1 command ⟨(Key.read key).2, mode⟩ n.patience.rounds 0 >>= fun outcome =>
        pure ((⟨(Key.read key).2, mode⟩ : FollowUp).finish outcome))
        (course.prepared (Key.read key).2.anchor)) course := by
  have unmarked : (⟨(Key.read key).2, mode⟩ : FollowUp).autoMenu = false :=
    Decorations.autoMenu_of_required required
  have marked : (⟨(Key.read key).2, mode⟩ : FollowUp).required = true := required
  unfold dispatch
  rw [deep, n.dispatchWithin_eq here ((commandOf_eq unmarked value).trans classified)]
  refine restoring_congr ?_
  rw [launchKey_run, if_pos marked]
  rfl

section Agreement

variable {key : String} {value : Value} (requires : Requires key value command request)

include requires

theorem dispatch_of_requires {depth : Nat} (deep : n.patience.depth = depth + 1) {mode : Mode}
    (here : course.session.mode = mode) {after : Course World}
    (ran : n.launchRequired
        (n.launchWith (n.dispatchWithin depth) (Key.read key).1 ⟨(Key.read key).2, mode⟩ command)
        (Key.read key).1 command ⟨(Key.read key).2, mode⟩ n.patience.rounds 0
        (course.prepared (Key.read key).2.anchor) = (.ok outcome, after)) :
    n.dispatch key value course = (.ok outcome, after) := by
  have stays : (⟨(Key.read key).2, mode⟩ : FollowUp).autoReturn = false := requires.stays
  rw [n.dispatch_of_required requires.required requires.classified deep here]
  refine ok_restoring ((bind_ok ran).trans ?_)
  rw [finish_of_stays stays]
  rfl

theorem perform_insist (answers : n.host.Replies request upcoming)
    (deep : 0 < n.patience.depth) (enough : 0 < n.patience.rounds) (lines : Nat → String) {j : Nat}
    (awaited : Awaited key command course.session j)
    (queued : ∀ i, upcoming course.world i = replies (i + j)) :
    ∃ mid, n.perform (insist key value lines j) course = (.ok (.ofReply (replies j)),
        n.suspended (waiting key command (j + 1)) (.ofReply (replies j)) mid) ∧
      mid.session.pending = none ∧ (∀ i, upcoming mid.world i = replies (i + (j + 1))) ∧
      mid.requests = request :: course.requests := by
  have next {ready : Course World} (same : ready.world = course.world) :
      ∀ i, upcoming (n.asked request ready).world i = replies (i + (j + 1)) := by
    intro i
    rw [n.asked_replies answers, same, queued, Nat.add_right_comm, Nat.add_assoc]
  cases j with
  | zero =>
    obtain ⟨depth, deep⟩ := Nat.exists_eq_add_one.mpr deep
    obtain ⟨rounds, enough⟩ := Nat.exists_eq_add_one.mpr enough
    let ready := course.prepared (Key.read key).2.anchor
    have ready_queued : ∀ i, upcoming ready.world i = replies (i + 0) := queued
    have mode : (⟨(Key.read key).2, .nonBlocking⟩ : FollowUp).mode = .nonBlocking := rfl
    have launched := n.launch_replies answers requires.action ready_queued (n.dispatchWithin depth)
    refine ⟨n.asked request ready, ?_, pending_anchoredIf _, next rfl, rfl⟩
    refine n.dispatch_of_requires requires deep awaited ?_
    rw [enough]
    exact n.launchRequired_nonBlocking mode (launched _ _) _ rounds 0
  | succ j =>
    refine ⟨n.asked request course.unasked, ?_, rfl, next rfl, rfl⟩
    have unasked_queued : ∀ i, upcoming course.unasked.world i = replies (i + (j + 1)) := queued
    have launched := n.launch_replies answers requires.action unasked_queued n.dispatch
    change n.resume (lines j) course = _
    rw [resume_eq, awaited]
    have stays : (waiting key command (j + 1)).followUp.autoReturn = false := requires.stays
    exact n.retry_run (finish_of_stays stays _) (launched _ _)

theorem performAll_insistence (answers : n.host.Replies request upcoming)
    (ends : EndsAt n.settings.retryLimit replies last) (deep : 0 < n.patience.depth)
    (enough : 0 < n.patience.rounds) (lines : Nat → String)
    (remote : course.session.mode = .nonBlocking) (queued : upcoming course.world = replies)
    {j : Nat} (bounded : j ≤ last) :
    Awaited key command (n.performAll (insistence key value lines j) course).session j ∧
      (∀ i, upcoming (n.performAll (insistence key value lines j) course).world i =
        replies (i + j)) ∧
      (n.performAll (insistence key value lines j) course).requests =
        List.replicate j request ++ course.requests := by
  induction j with
  | zero => exact ⟨remote, fun i => congrFun queued i, rfl⟩
  | succ j ih =>
    obtain ⟨awaited, later, requests⟩ := ih (by omega)
    obtain ⟨mid, performed, idle, next, asked⟩ :=
      n.perform_insist requires answers deep enough lines awaited later
    rw [insistence_succ, performAll_concat, performed]
    refine ⟨?_, ?_, ?_⟩
    · exact (n.suspended_pending ends (by omega) idle rfl).trans (if_pos (by omega))
    · intro i
      rw [n.suspended_world, next]
    · rw [n.suspended_requests, asked, requests]
      rfl

/-- A required action is launched equally often in both modes, with the same outcome. The blocking
dispatch shows the failures before the last launch; the non-blocking one answers with each, and the
launches so far are counted in what waits. -/
theorem required_agrees {other : Course World} (answers : n.host.Replies request upcoming)
    (ends : EndsAt n.settings.retryLimit replies last) (deep : 0 < n.patience.depth)
    (enough : last < n.patience.rounds)
    (blocking : course.session.mode = .blocking) (queued : upcoming course.world = replies)
    (remote : other.session.mode = .nonBlocking) (alike : upcoming other.world = replies)
    (lines : Nat → String) :
    (∃ after, n.dispatch key value course = (.ok (.ofReply (replies last)), after) ∧
      after.requests = List.replicate (last + 1) request ++ course.requests ∧
      after.shown = ((List.range last).map fun i =>
        Payload.message (Outcome.ofReply (replies i)).complaint).reverse ++ course.shown) ∧
    ∀ j ≤ last, ∃ after,
      n.perform (insist key value lines j) (n.performAll (insistence key value lines j) other) =
        (.ok (.ofReply (replies j)), after) ∧
      after.requests = List.replicate (j + 1) request ++ other.requests ∧
      (j < last → ∃ retry,
        after.session.pending = some (.retry retry) ∧ retry.attempts = j + 1) ∧
      (j = last → after.session.pending = none) := by
  constructor
  · obtain ⟨depth, deep⟩ := Nat.exists_eq_add_one.mpr deep
    let ready := course.prepared (Key.read key).2.anchor
    have ready_queued : ∀ i, upcoming ready.world i = replies (i + 0) := congrFun queued
    have mode : (⟨(Key.read key).2, .blocking⟩ : FollowUp).mode = .blocking := rfl
    obtain ⟨after, ran, requests, shown⟩ := n.launchRequired_ends answers ends requires.action mode
      (n.dispatchWithin depth) (Key.read key).1 (Nat.zero_add last) enough ready_queued
    refine ⟨after, n.dispatch_of_requires requires deep blocking ran, requests, ?_⟩
    rw [List.range_eq_range']
    exact shown
  · intro j bounded
    have some_rounds : 0 < n.patience.rounds := by omega
    obtain ⟨awaited, later, requests⟩ := n.performAll_insistence requires answers ends deep
      some_rounds lines remote alike bounded
    obtain ⟨mid, performed, idle, _, asked⟩ :=
      n.perform_insist requires answers deep some_rounds lines awaited later
    have launches : (waiting key command (j + 1)).attempts = j + 1 := rfl
    have pending := n.suspended_pending ends bounded idle launches
    refine ⟨_, performed, ?_, ?_, ?_⟩
    · rw [n.suspended_requests, asked, requests]
      rfl
    · intro earlier
      exact ⟨_, pending.trans (if_pos earlier), rfl⟩
    · intro ended
      exact pending.trans (if_neg (by omega))

end Agreement

namespace Sample

/-- A visit where the function of the note reports a failure, then cannot be run, and then goes
through. -/
def flaky (mode : Mode) : Course Script :=
  visit mode [] [.ok (.failed "busy"), .error "lost", .ok (.ok .null)]

def noteRequest : Request := ⟨.functions, "note", .arr []⟩

theorem note_requires : Requires "~note!" (.str "call(note)") (.call "note" []) noteRequest where
  required := by decide
  stays := by decide
  classified := rfl
  action := rfl

theorem flaky_ends : EndsAt 25 (Script.upcoming noteRequest (flaky .blocking).world) 2 where
  failing := by decide
  within := by decide
  ended := by decide

theorem required_agrees_flaky :
    (∃ after, navigator.dispatch "~note!" (.str "call(note)") (flaky .blocking) =
        (.ok .empty, after) ∧ after.requests.length = 3 ∧ after.shown.length = 2) ∧
    ∃ after, navigator.perform (.resume "") (navigator.performAll
        [.dispatch "~note!" (.str "call(note)"), .resume ""] (flaky .nonBlocking)) =
        (.ok .empty, after) ∧ after.requests.length = 3 ∧ after.session.pending = none := by
  have remote : (flaky .nonBlocking).session.mode = .nonBlocking := rfl
  have alike : Script.upcoming noteRequest (flaky .nonBlocking).world =
      Script.upcoming noteRequest (flaky .blocking).world := rfl
  obtain ⟨⟨after, dispatched, requests, shown⟩, resumes⟩ := navigator.required_agrees note_requires
    (Script.host_replies noteRequest) flaky_ends (by decide) (by decide) rfl rfl remote alike
    fun _ => ""
  obtain ⟨last, resumed, again, _, idle⟩ := resumes 2 le_rfl
  have ended : Outcome.ofReply (Script.upcoming noteRequest (flaky .blocking).world 2) = .empty :=
    rfl
  rw [ended] at dispatched resumed
  refine ⟨⟨after, dispatched, ?_, ?_⟩, last, resumed, ?_, idle rfl⟩
  · rw [requests]
    rfl
  · rw [shown]
    rfl
  · rw [again]
    rfl

end Sample

end Navigator

end Signpost
