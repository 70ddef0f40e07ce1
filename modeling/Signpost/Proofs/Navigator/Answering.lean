import Signpost.Proofs.Menu
import Signpost.Proofs.Navigator.Outstanding

/-! What is selected from a pending menu.

Each line is a call of its own. The menu that waits goes from one call to the next, narrowed or as it
was, until a line selects something, and what is selected depends on the model and the lines
alone. -/

namespace Signpost

def PendingMenu.withModel (menu : PendingMenu) (model : Menu.Model) : PendingMenu :=
  { menu with view := { menu.view with model := model } }

/-- The menu belongs to a key without marks. -/
def PendingMenu.Plain (menu : PendingMenu) : Prop := menu.followUp = .plain .nonBlocking

theorem Course.pend_pending {World : Type} (pending : Pending) (course : Course World) :
    (course.pend pending).session.pending = some pending := rfl

namespace Navigator

open Act Session

variable {World : Type} (n : Navigator World) {course mid after : Course World}
  {menu : PendingMenu} {selection : Menu.Selection} {line : String} {earlier : List String}
  {outcome : Outcome}

/-- The answer tells that the menu is still pending: the line was rejected, or the menu is
narrowed. -/
inductive AsksAgain (line : String) (menu : PendingMenu) : Outcome → Option Pending → Prop where
  | rejected {failure : Failure} : failure.kind = .validation →
      AsksAgain line menu (.failed failure) (some (.menu menu))
  | narrowed {model : Menu.Model} : menu.view.model.resolve line = .ok (.narrowed model) →
      AsksAgain line menu (.pending (menu.withModel model).prompt)
        (some (.menu (menu.withModel model)))

/-- Each of the lines is answered, and leaves the menu pending. -/
inductive Insists : Course World → List String → Course World → Prop where
  | nil (course : Course World) : Insists course [] course
  | cons {course mid after : Course World} {menu : PendingMenu} {line : String}
      {lines : List String} {outcome : Outcome} :
      course.session.pending = some (.menu menu) → n.resume line course = (.ok outcome, mid) →
        AsksAgain line menu outcome mid.session.pending → Insists mid lines after →
          Insists course (line :: lines) after

/-- The line selects something from the pending menu, and the answer launches it. -/
def ResumeSelects (course : Course World) (line : String) (selection : Menu.Selection) : Prop :=
  ∃ menu, course.session.pending = some (.menu menu) ∧
    menu.view.model.selects line = some selection ∧
    n.resume line course =
      keepingPending (.menu menu) (n.select n.dispatch selection) course.unasked

/-! ## One answer -/

section Answer

variable (waits : course.session.pending = some (.menu menu))

include waits

theorem resume_of_selects (plain : menu.Plain)
    (selects : menu.view.model.selects line = some selection) :
    n.ResumeSelects course line selection := by
  obtain ⟨resolved, whole⟩ := Menu.Model.of_selects selects
  refine ⟨menu, waits, selects, ?_⟩
  rw [n.resume_of_menu waits, n.answer_of_selection resolved whole, plain]
  exact congrFun (bind_pure _) _

theorem resume_of_retained {left : Menu.Model}
    (retained : menu.view.model.retained line = some left) :
    ∃ outcome, n.resume line course = (.ok outcome, course.pend (.menu (menu.withModel left))) ∧
      AsksAgain line menu outcome (some (.menu (menu.withModel left))) := by
  rw [n.resume_of_menu waits]
  unfold answer
  rcases Menu.Model.of_retained retained with ⟨error, rejected, rfl⟩ | narrowed
  · rw [rejected]
    exact ⟨_, rfl, .rejected rfl⟩
  · rw [narrowed]
    exact ⟨_, rfl, .narrowed narrowed⟩

/-- A selection that is launched leaves no menu pending that could be taken for the one before. -/
theorem of_asksAgain (plain : menu.Plain) (mode : course.session.mode = .nonBlocking)
    (resumed : n.resume line course = (.ok outcome, mid))
    (again : AsksAgain line menu outcome mid.session.pending) :
    ∃ left, menu.view.model.retained line = some left ∧
      mid = course.pend (.menu (menu.withModel left)) := by
  rcases menu.view.model.selects_or_retained line with ⟨made, selects, _⟩ | ⟨left, retained, _⟩
  · obtain ⟨resolved, whole⟩ := Menu.Model.of_selects selects
    obtain ⟨other, same, _, launched⟩ := n.resume_of_selects waits plain selects
    rw [launched] at resumed
    have unasked : course.unasked.session.mode = .nonBlocking := mode
    have leaves := n.select_leaves unasked rfl (of_keepingPending_ok resumed)
    generalize waiting : mid.session.pending = left at again leaves
    cases again with
    | rejected =>
      rcases leaves with nothing | ⟨retry, other, _⟩
      · cases nothing
      · cases other
    | narrowed narrowed =>
      rw [resolved] at narrowed
      exact absurd (Except.ok.inj narrowed) (whole _)
  · obtain ⟨told, answered, _⟩ := n.resume_of_retained waits retained
    rw [answered] at resumed
    cases resumed
    exact ⟨left, retained, rfl⟩

end Answer

/-! ## Several answers -/

/-- Answers that leave the menu pending change nothing else. -/
theorem Insists.stays (insists : n.Insists course earlier after)
    (waits : course.session.pending = some (.menu menu)) (plain : menu.Plain)
    (mode : course.session.mode = .nonBlocking) :
    after.world = course.world ∧ after.unasked.session = course.unasked.session := by
  induction insists generalizing menu with
  | nil => exact ⟨rfl, rfl⟩
  | cons pending resumed again _ ih =>
    cases pending.symm.trans waits
    obtain ⟨left, _, rfl⟩ := n.of_asksAgain waits plain mode resumed again
    exact ih (Course.pend_pending _ _) plain mode

theorem insists_iff (waits : course.session.pending = some (.menu menu)) (plain : menu.Plain)
    (mode : course.session.mode = .nonBlocking) :
    (∃ last, n.Insists course earlier last ∧ n.ResumeSelects last line selection) ↔
      menu.view.model.chosen earlier line = some selection := by
  induction earlier generalizing course menu with
  | nil =>
    constructor
    · rintro ⟨last, ⟨⟩, other, pending, selects, _⟩
      cases pending.symm.trans waits
      exact selects
    · intro selects
      exact ⟨course, .nil course, n.resume_of_selects waits plain selects⟩
  | cons first earlier ih =>
    constructor
    · rintro ⟨last, insists, launches⟩
      cases insists with
      | cons pending resumed again insists =>
        cases pending.symm.trans waits
        obtain ⟨left, retained, rfl⟩ := n.of_asksAgain waits plain mode resumed again
        have later := (ih (course.pend_pending (.menu (menu.withModel left))) plain mode).mp
          ⟨last, insists, launches⟩
        exact Option.bind_eq_some_iff.mpr ⟨left, retained, later⟩
    · intro chosen
      obtain ⟨left, retained, chosen⟩ := Option.bind_eq_some_iff.mp chosen
      obtain ⟨outcome, resumed, again⟩ := n.resume_of_retained waits retained
      obtain ⟨last, insists, launches⟩ :=
        (ih (course.pend_pending (.menu (menu.withModel left))) plain mode).mpr chosen
      exact ⟨last, .cons waits resumed again insists, launches⟩

end Navigator

end Signpost
