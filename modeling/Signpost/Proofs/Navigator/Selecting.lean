import Signpost.Proofs.Library
import Signpost.Proofs.Navigator.Action
import Signpost.Proofs.Navigator.Answering
import Signpost.Proofs.Navigator.Choosing

/-! A menu selects the same in both modes.

The loop that asks in blocking mode and the menu that waits in non-blocking mode begin with the same
model, and both follow it. What a selection comes to is the same as well where every item is an
action and the collaborators answer alike. -/

namespace Signpost

def MenuSpec.options (spec : MenuSpec) (followUp : FollowUp) : Menu.Options :=
  ⟨spec.title, spec.allowBack && followUp.allowsBack, spec.multi⟩

def Menu.Source.ofReply : Except String Reply → Menu.Source
  | .ok (.ok value) => .dynamic (.ok value)
  | .ok (.failed message) => .dynamic (.error message)
  | .ok .abort => .dynamic (.error "menu source aborted")
  | .error reason => .dynamic (.error reason)

namespace Navigator

open Act Session

variable {World : Type} (n : Navigator World) {course mid : Course World}
  {key : String} {followUp : FollowUp} {spec : MenuSpec} {source : Menu.Source}
  {select : Menu.Selection → Act World Outcome} {model : Menu.Model}

/-! ## Opening a menu -/

theorem menuSource_cases (items : Value) :
    n.menuSource items = (pure (.ofValue items) : Act World Menu.Source) ∨
      ∃ request : Request, request.collaborator = .functions ∧
        n.menuSource items = (n.request request >>= fun reply => pure (.ofReply reply)) := by
  unfold menuSource
  split
  next text name args _ =>
    refine .inr ⟨⟨.functions, name, .arr args⟩, rfl, congrArg (_ >>= ·) (funext fun reply => ?_)⟩
    rcases reply with reason | (value | message | _) <;> rfl
  next => exact .inl rfl

theorem menuSource_run (items : Value) (course : Course World) :
    ∃ source, n.menuSource items course = (.ok source, (n.menuSource items course).2) := by
  rcases n.menuSource_cases items with written | ⟨request, _, asked⟩
  · rw [written]
    exact ⟨_, rfl⟩
  · rw [asked, bind_ok n.request_run]
    exact ⟨_, rfl⟩

def viewOf (model : Menu.Model) (course : Course World) : Menu.View :=
  ⟨model, n.settings.density, course.session.trail.map Location.text⟩

def menuOf (key : String) (followUp : FollowUp) (model : Menu.Model) (course : Course World) :
    PendingMenu := ⟨key, n.viewOf model course, followUp⟩

section Open

variable (offered : n.menuSource spec.items course = (.ok source, mid))

include offered

theorem openMenu_of_error (key : String) {error : Menu.Error}
    (built : Menu.build source (spec.options followUp) = .error error) :
    ∃ failure, ∀ select, n.openMenu select key followUp spec course =
      (.ok (.failed failure), mid) := by
  unfold MenuSpec.options at built
  cases error with
  | source reason =>
    refine ⟨⟨.action, (Menu.Error.source reason).message⟩, fun _ => (bind_ok offered).trans ?_⟩
    rw [built]
    rfl
  | empty =>
    refine ⟨⟨.validation, Menu.Error.empty.message⟩, fun _ => (bind_ok offered).trans ?_⟩
    rw [built]
    rfl

theorem openMenu_of_ok (built : Menu.build source (spec.options followUp) = .ok model) :
    n.openMenu select key followUp spec course =
      (isBlocking >>= fun blocking =>
        if blocking then n.interact select n.patience.rounds (n.viewOf model mid)
        else Act.modifySession (fun session =>
            session.setPending (.menu (n.menuOf key followUp model mid))) >>= fun _ =>
          pure (.pending (n.menuOf key followUp model mid).prompt)) mid := by
  unfold MenuSpec.options at built
  refine (bind_ok offered).trans ?_
  rw [built]
  rfl

theorem openMenu_blocking (built : Menu.build source (spec.options followUp) = .ok model)
    (mode : course.session.mode = .blocking) : n.openMenu select key followUp spec course =
      n.interact select n.patience.rounds (n.viewOf model mid) mid := by
  have still : mid.session.mode = .blocking := by
    rw [(n.menuSource_still _).of_run offered, mode]
  rw [n.openMenu_of_ok offered built]
  exact bind_ok (isBlocking_blocking still)

theorem openMenu_pending (built : Menu.build source (spec.options followUp) = .ok model)
    (mode : course.session.mode = .nonBlocking) : n.openMenu select key followUp spec course =
      (.ok (.pending (n.menuOf key followUp model mid).prompt),
        mid.pend (.menu (n.menuOf key followUp model mid))) := by
  have still : mid.session.mode = .nonBlocking := by
    rw [(n.menuSource_still _).of_run offered, mode]
  rw [n.openMenu_of_ok offered built]
  exact bind_ok (isBlocking_nonBlocking still)

end Open

/-! ## Dispatching the key of a menu -/

structure OpensMenu (key : String) (value : Value) (spec : MenuSpec) : Prop where
  plain : Key.read key = (key, {})
  classified : Command.classify value = .ok (.menu spec)

/-- A blocking dispatch of a menu's key asks until this selection is made, and then launches it in
the course `mid`. -/
structure DispatchSelects (key : String) (value : Value) (spec : MenuSpec) (course : Course World)
    (selection : Menu.Selection) (mid : Course World) : Prop where
  asks : HandsOver (n.openMenu · key (.plain .blocking) spec) course.unasked selection mid
  launches : ∃ depth, n.patience.depth = depth + 1 ∧
    n.dispatch key value course =
      Act.restoring (fun _ => n.select (n.dispatchWithin depth) selection mid) course

section Dispatch

variable {value : Value} {selection : Menu.Selection} (opens : OpensMenu key value spec)

include opens

theorem dispatch_of_menu {depth : Nat} (deep : n.patience.depth = depth + 1) {mode : Mode}
    (here : course.session.mode = mode) : n.dispatch key value course =
      Act.restoring (fun course => n.openMenu (n.select (n.dispatchWithin depth)) key (.plain mode)
        spec course.unasked) course := by
  unfold dispatch
  rw [deep]
  exact n.dispatchWithin_plain opens.plain here opens.classified

theorem dispatchSelects (deep : 0 < n.patience.depth) (blocking : course.session.mode = .blocking)
    (hands : HandsOver (n.openMenu · key (.plain .blocking) spec) course.unasked selection mid) :
    n.DispatchSelects key value spec course selection mid := by
  obtain ⟨depth, deep⟩ := Nat.exists_eq_add_one.mpr deep
  refine ⟨hands, depth, deep, ?_⟩
  rw [n.dispatch_of_menu opens deep blocking]
  exact restoring_congr (hands _)

theorem dispatch_pending (deep : 0 < n.patience.depth)
    (remote : course.session.mode = .nonBlocking)
    (offered : n.menuSource spec.items course.unasked = (.ok source, mid))
    (built : Menu.build source (spec.options (.plain .nonBlocking)) = .ok model) :
    n.dispatch key value course =
      (.ok (.pending (n.menuOf key (.plain .nonBlocking) model mid).prompt),
        mid.pend (.menu (n.menuOf key (.plain .nonBlocking) model mid))) := by
  obtain ⟨depth, deep⟩ := Nat.exists_eq_add_one.mpr deep
  rw [n.dispatch_of_menu opens deep remote]
  exact ok_restoring (n.openMenu_pending offered built remote)

theorem dispatch_unbuilt (deep : 0 < n.patience.depth) {mode : Mode}
    (here : course.session.mode = mode)
    (offered : n.menuSource spec.items course.unasked = (.ok source, mid)) {error : Menu.Error}
    (built : Menu.build source (spec.options (.plain mode)) = .error error) :
    ∃ failure, n.dispatch key value course = (.ok (.failed failure), mid) := by
  obtain ⟨depth, deep⟩ := Nat.exists_eq_add_one.mpr deep
  obtain ⟨failure, opened⟩ := n.openMenu_of_error offered key built
  rw [n.dispatch_of_menu opens deep here]
  exact ⟨failure, ok_restoring (opened _)⟩

end Dispatch

section Agreement

variable {value : Value} {selection : Menu.Selection} {other : Course World}
  {input : World → List String} {earlier rest : List String} {line : String}

theorem menuSource_input (reads : n.host.Reads input) (items : Value) (course : Course World) :
    input (n.menuSource items course).2.world = input course.world := by
  rcases n.menuSource_cases items with written | ⟨request, functions, asked⟩
  · rw [written]
    rfl
  · rw [asked, bind_ok n.request_run]
    exact reads.functions request _ _ functions

section Built

variable (opens : OpensMenu key value spec) (deep : 0 < n.patience.depth)
  (offered : n.menuSource spec.items course.unasked = (.ok source, mid))

include opens deep offered

theorem dispatchSelects_iff (reads : n.host.Reads input)
    (built : Menu.build source (spec.options (.plain .blocking)) = .ok model)
    (enough : earlier.length < n.patience.rounds) (blocking : course.session.mode = .blocking)
    (queued : input course.world = earlier ++ line :: rest) :
    (∃ mid, n.DispatchSelects key value spec course selection mid ∧ input mid.world = rest) ↔
      model.chosen earlier line = some selection := by
  have started : input mid.world = earlier ++ line :: rest := by
    have asked := n.menuSource_input reads spec.items course.unasked
    rw [offered] at asked
    exact asked.trans queued
  have opened (select : Menu.Selection → Act World Outcome) :
      n.openMenu select key (.plain .blocking) spec course.unasked =
        n.interact select n.patience.rounds (n.viewOf model mid) mid :=
    n.openMenu_blocking offered built blocking
  have loop : (∃ last, HandsOver (n.interact · n.patience.rounds (n.viewOf model mid)) mid
      selection last ∧ input last.world = rest) ↔ model.chosen earlier line = some selection :=
    interact_handsOver_iff reads started enough
  rw [← loop]
  constructor
  · rintro ⟨last, selects, left⟩
    exact ⟨last, fun select => (opened select).symm.trans (selects.asks select), left⟩
  · rintro ⟨last, hands, left⟩
    exact ⟨last, n.dispatchSelects opens deep blocking fun select =>
      (opened select).trans (hands select), left⟩

theorem pendingSelects_iff
    (built : Menu.build source (spec.options (.plain .nonBlocking)) = .ok model)
    (remote : course.session.mode = .nonBlocking) :
    (∃ prompt opened last, n.dispatch key value course = (.ok (.pending prompt), opened) ∧
      n.Insists opened earlier last ∧ n.ResumeSelects last line selection) ↔
      model.chosen earlier line = some selection := by
  have dispatched := n.dispatch_pending opens deep remote offered built
  have mode : mid.session.mode = .nonBlocking := by
    rw [(n.menuSource_still _).of_run offered]
    exact remote
  let menu := n.menuOf key (.plain .nonBlocking) model mid
  have chain : (∃ last, n.Insists (mid.pend (.menu menu)) earlier last ∧
      n.ResumeSelects last line selection) ↔ model.chosen earlier line = some selection :=
    n.insists_iff (mid.pend_pending (.menu menu)) rfl mode
  rw [← chain]
  constructor
  · rintro ⟨prompt, opened, last, asked, insists, launches⟩
    cases dispatched.symm.trans asked
    exact ⟨last, insists, launches⟩
  · rintro ⟨last, insists, launches⟩
    exact ⟨_, _, last, dispatched, insists, launches⟩

end Built

theorem of_dispatch_pending (opens : OpensMenu key value spec) (deep : 0 < n.patience.depth)
    (remote : course.session.mode = .nonBlocking) {prompt : Prompt} {opened : Course World}
    (dispatched : n.dispatch key value course = (.ok (.pending prompt), opened)) :
    ∃ menu : PendingMenu, menu.Plain ∧
      opened = (n.menuSource spec.items course.unasked).2.pend (.menu menu) := by
  obtain ⟨source, offered⟩ := n.menuSource_run spec.items course.unasked
  cases built : Menu.build source (spec.options (.plain .nonBlocking)) with
  | error error =>
    obtain ⟨failure, failed⟩ := n.dispatch_unbuilt opens deep remote offered built
    cases failed.symm.trans dispatched
  | ok model =>
    cases (n.dispatch_pending opens deep remote offered built).symm.trans dispatched
    exact ⟨n.menuOf key (.plain .nonBlocking) model _, rfl, rfl⟩

theorem DispatchSelects.asked {mid : Course World} (blocking : course.session.mode = .blocking)
    (selects : n.DispatchSelects key value spec course selection mid) :
    ∃ view earlier line,
      n.Asked view (n.menuSource spec.items course.unasked).2 earlier line selection mid := by
  obtain ⟨source, offered⟩ := n.menuSource_run spec.items course.unasked
  cases built : Menu.build source (spec.options (.plain .blocking)) with
  | error error =>
    obtain ⟨failure, failed⟩ := n.openMenu_of_error offered key built
    exact (selects.asks.elim failed).elim
  | ok model =>
    let asked := (n.menuSource spec.items course.unasked).2
    have hands : HandsOver (n.interact · n.patience.rounds (n.viewOf model asked)) asked selection
        mid := fun select =>
      (n.openMenu_blocking offered built blocking).symm.trans (selects.asks select)
    exact ⟨_, of_handsOver hands⟩

theorem select_iff (opens : OpensMenu key value spec) (reads : n.host.Reads input)
    (deep : 0 < n.patience.depth) (enough : earlier.length < n.patience.rounds)
    (blocking : course.session.mode = .blocking) (remote : other.session.mode = .nonBlocking)
    (queued : input course.world = earlier ++ line :: rest)
    (alike : (n.menuSource spec.items course.unasked).1 =
      (n.menuSource spec.items other.unasked).1) :
    (∃ mid, n.DispatchSelects key value spec course selection mid ∧ input mid.world = rest) ↔
      ∃ prompt opened last, n.dispatch key value other = (.ok (.pending prompt), opened) ∧
        n.Insists opened earlier last ∧ n.ResumeSelects last line selection := by
  obtain ⟨source, offered⟩ := n.menuSource_run spec.items course.unasked
  obtain ⟨source', offered'⟩ := n.menuSource_run spec.items other.unasked
  obtain rfl : source = source' := by
    rw [offered, offered'] at alike
    exact Except.ok.inj alike
  cases built : Menu.build source (spec.options (.plain .blocking)) with
  | error error =>
    obtain ⟨failure, opened⟩ := n.openMenu_of_error offered key built
    obtain ⟨failure', dispatched⟩ := n.dispatch_unbuilt opens deep remote offered' built
    constructor
    · rintro ⟨mid, selects, _⟩
      exact (selects.asks.elim opened).elim
    · rintro ⟨prompt, opened, last, asked, _⟩
      cases dispatched.symm.trans asked
  | ok model =>
    exact (n.dispatchSelects_iff opens deep offered reads built enough blocking queued).trans
      (n.pendingSelects_iff opens deep offered' built remote).symm

end Agreement

end Navigator

end Signpost
