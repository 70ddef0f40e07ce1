import Signpost.Proofs.Navigator.Unaddressed
import Signpost.Proofs.Navigator.Waiting

/-! What a refused launch leaves behind.

A launch without a key keeps no session to put back. Most of what it does is undone by its parts, but
a menu that is asked at once may dispatch a key, and what this dispatch has done to the session stays
when a later part is refused: nothing is pending any more, and the location may have been anchored.
There are no other traces, and which sessions can show them is known in advance. -/

namespace Signpost

namespace Session

variable {s mid s' : Session}

/-- Nothing has happened, or one or more keys have been dispatched at the location. -/
def Spends (s s' : Session) : Prop :=
  s' = s ∨ ∃ here anchor, s.location? = some here ∧ s' = s.clearPending.anchoredIf anchor

theorem spends_dwelling : Dwelling Spends where
  refl _ := .inl rfl
  trans {s mid s'} first second := by
    rcases first with rfl | ⟨here, anchor, located, rfl⟩
    · exact second
    · refine .inr ⟨here, ?_⟩
      rcases second with rfl | ⟨_, again, _, rfl⟩
      · exact ⟨anchor, located, rfl⟩
      · refine ⟨anchor || again, located, ?_⟩
        have idle : (s.clearPending.anchoredIf anchor).clearPending =
            s.clearPending.anchoredIf anchor := (anchoredIf_pending anchor none).symm
        rw [idle, anchoredIf_anchoredIf]

/-- A launch lingers, and where menus are asked at once it leaves no pending input of its own. -/
def Abides (s s' : Session) : Prop := Lingers s s' ∧ (s.mode = .blocking → Spends s s')

theorem abides_suspending : Suspending Abides where
  refl s := ⟨lingers_dwelling.refl s, fun _ => spends_dwelling.refl s⟩
  trans first second := ⟨first.1.trans second.1, fun blocking =>
    spends_dwelling.trans (first.2 blocking) (second.2 (first.1.sameFrame.mode.trans blocking))⟩
  suspended s pending remote := by
    refine ⟨lingers_waiting.pending s (some pending), fun blocking => ?_⟩
    rw [remote] at blocking
    cases blocking

theorem Lingers.spends {here : Location} (lingers : Lingers s s') (located : s.location? = some here)
    (idle : s'.pending = none) : Spends s s' := by
  obtain ⟨anchor, rests⟩ := lingers
  refine .inr ⟨here, anchor, located, ?_⟩
  rw [Rests, idle] at rests
  exact rests.trans (anchoredIf_pending anchor none).symm

theorem clearPending_of_idle (idle : s.pending = none) : s.clearPending = s := by
  rw [clearPending, ← idle]

theorem Spends.eq_self (spends : Spends s s') (idle : s.pending = none)
    (ends : s.trail.getLast? = s.location?) : s' = s := by
  rcases spends with same | ⟨here, anchor, located, rfl⟩
  · exact same
  · have anchored : s.checkpoint.2 = s := by
      by_contra changed
      obtain ⟨there, found, away⟩ := checkpoint_ne_self_iff.mp changed
      exact away (ends.trans found)
    rw [clearPending_of_idle idle]
    cases anchor
    · rfl
    · exact anchored

/-- A session that loses nothing when an anchored key is dispatched has had nothing to lose. -/
theorem idle_of_spent {here : Location} (located : s.location? = some here)
    (same : s.clearPending.checkpoint.2 = s) :
    s.pending = none ∧ s.trail.getLast? = some here := by
  have idle : s.pending = none := by
    rw [← same, checkpoint_eq]
    rfl
  refine ⟨idle, ?_⟩
  rw [clearPending_of_idle idle] at same
  by_contra away
  exact checkpoint_ne_self_iff.mpr ⟨here, located, away⟩ same

/-- A move leaves pending input alone, so what is known of it afterwards was known before. -/
theorem Leads.refine {stay finer : Session → Session → Prop} {result : Except Halt Outcome}
    (leads : s.Leads stay result s')
    (fine : ∀ mid, stay s mid → mid.pending = s'.pending → finer s mid) :
    s.Leads finer result s' := by
  have moved {location : Location} (moves : s.Moves stay location s') :
      s.Moves finer location s' := by
    obtain ⟨mid, context, time, stays, rfl⟩ := moves
    exact ⟨mid, context, time, fine mid stays rfl, rfl⟩
  rcases result with halt | outcome
  · exact fine s' leads rfl
  · cases outcome with
    | relocated => exact moved leads
    | back => exact leads.imp (fine s' · rfl) fun ⟨location, moves⟩ => ⟨location, moved moves⟩
    | _ => exact fine s' leads rfl

end Session

namespace Navigator

open Act Session

variable {World : Type} (n : Navigator World) {course after : Course World} {command : Command}
  {halt : Halt}

/-! ## What is left -/

theorem dispatch_abides (key : String) (value : Value) :
    (n.dispatch key value).TravelsPlaced Abides := by
  intro course here located
  have leads := n.dispatch_travels key value course
  rcases ran : n.dispatch key value course with ⟨halt | outcome, after⟩
  · rw [n.dispatch_undone key value ran]
    exact abides_suspending.refl _
  · rw [ran] at leads
    refine leads.refine fun mid lingers kept => ⟨lingers, fun blocking => ?_⟩
    have settled := n.dispatchWithin_settled blocking ran
    exact lingers.spends located (kept.trans settled.2)

theorem launch_abides (command : Command) : (n.launch command).Travels Abides :=
  Travels.afterStill abides_suspending.toDwelling Still.session fun _ =>
    n.launchWith_travels abides_suspending n.dispatch_abides _ _ command

/-- Where menus are left pending, the launch ends with the first of them and is refused before it. -/
theorem launch_error_nonBlocking (remote : course.session.mode = .nonBlocking)
    (halted : n.launch command course = (.error halt, after)) : after.session = course.session := by
  have launched : n.launchWith n.dispatch "" (.plain course.session.mode) command course =
      (.error halt, after) := halted
  have rests := n.launchWith_leads n.dispatch remote "" (.plain course.session.mode) command
  rw [launched] at rests
  have awaits := (n.launchWith_awaits "" (.plain course.session.mode) command).of_run remote launched
  have same : after.session.pending = course.session.pending := awaits.2
  have kept : after.session = { course.session with pending := after.session.pending } := rests
  rw [kept, same]

theorem launch_error (halted : n.launch command course = (.error halt, after)) :
    after.session = course.session ∨ course.session.mode = .blocking ∧
      ∃ here anchor, course.session.location? = some here ∧
        after.session = course.session.clearPending.anchoredIf anchor := by
  cases mode : course.session.mode with
  | nonBlocking => exact .inl (n.launch_error_nonBlocking mode halted)
  | blocking =>
    have abides : Abides course.session after.session := (n.launch_abides command).of_run halted
    exact (abides.2 mode).imp_right fun traces => ⟨rfl, traces⟩

/-! ## A launch that leaves a trace

Whatever a document is asked for, it has one block, the one where the session is. Its only key is
anchored and does nothing. -/

section Trace

variable {here : Location}

def noteHost (here : Location) : Host Unit where
  load path := pure (.ok ⟨path, [(here.block, [("~note", .null)])]⟩)
  check _ _ := pure true
  render _ := pure ()
  display _ := pure ()
  prompt _ := pure (some "note")
  invoke _ _ := pure ⟨.ok .abort, []⟩
  now _ := .epoch

def noteNavigator (here : Location) : Navigator Unit := ⟨{}, noteHost here, ⟨1, 1, 0⟩⟩

/-- A menu with the key as its only item, and behind it something that is no command. -/
def noteMenu : Value := .obj [("menu", .arr [.str "note"])]

def noteThenFlaw : Command := .sequence [noteMenu, .obj [("colour", .str "red")]]

def noteItem : Menu.Item := ⟨"note", "note", false⟩

theorem noteNavigator_dispatch {course : Course Unit} (mode : course.session.mode = .blocking) :
    (noteNavigator here).dispatch "~note" .null course = (.ok .empty, course.prepared true) := by
  have marks : Key.read "~note" = ("note", ⟨some .anchor, none⟩) := by decide +kernel
  have classified : commandOf ⟨(Key.read "~note").2, .blocking⟩ .null = .ok .empty := by
    rw [marks]
    rfl
  have whole : (noteNavigator here).dispatch "~note" .null course =
      (noteNavigator here).dispatchWithin (0 + 1) "~note" .null course := rfl
  rw [whole, (noteNavigator here).dispatchWithin_eq mode classified]
  refine ok_restoring ?_
  rw [launchKey_run, marks]
  rfl

/-- The item of the menu names the key, wherever the session is. -/
theorem noteNavigator_item {course : Course Unit} (mode : course.session.mode = .blocking)
    (located : course.session.location? = some here) :
    ∃ mid : Course Unit, mid.session = course.session ∧
      (noteNavigator here).launchItem (noteNavigator here).dispatch noteItem course =
        (.ok .empty, mid.prepared true) := by
  have loaded : (noteNavigator here).load here.path course = (.ok _, _) :=
    (noteNavigator here).load_run here.path course
  have named : (noteNavigator here).namedKey? noteItem course = some ("~note", .null) := by
    have bare : (Key.bare "~note" == Key.bare "note") = true := by decide +kernel
    have absent : Fields.get? [("~note", .null)] "note" = none := rfl
    rw [(noteNavigator here).namedKey?_of_load rfl located loaded, Document.lookupKey?,
      Document.block?, List.lookup_cons_self]
    simp [Document.entry?, absent, noteItem, bare]
  have still := (noteNavigator here).currentDocument_still course
  refine ⟨_, still, ?_⟩
  rw [(noteNavigator here).launchItem_of_key named, noteNavigator_dispatch (still ▸ mode)]

theorem noteNavigator_menu {course : Course Unit} (mode : course.session.mode = .blocking)
    (located : course.session.location? = some here) (key : String) (index : Nat) :
    ∃ mid : Course Unit, mid.session = course.session ∧
      (noteNavigator here).launchElement (noteNavigator here).dispatch key index noteMenu course =
        (.ok .empty, mid.prepared true) := by
  let spec : MenuSpec := { items := .arr [.str "note"], allowBack := true }
  let model : Menu.Model := ⟨[noteItem, Menu.backItem], none, true, false, .list⟩
  have classified : Command.classify noteMenu = .ok (.menu spec) := by rfl
  have offered : (noteNavigator here).menuSource spec.items course =
      (.ok (.list [.str "note"]), course) := rfl
  have built : Menu.build (.list [.str "note"]) (spec.options (.plain .blocking)) = .ok model := by
    decide +kernel
  have selects : model.selects "note" = some (.single noteItem) := by decide +kernel
  let asked := ((noteNavigator here).lineFor ((noteNavigator here).viewOf model course) course).2
  have read : ((noteNavigator here).lineFor ((noteNavigator here).viewOf model course) course).1 =
      some "note" := rfl
  obtain ⟨mid, same, launched⟩ := noteNavigator_item (show asked.session.mode = .blocking from mode)
    (show asked.session.location? = some here from located)
  refine ⟨mid, same, ?_⟩
  rw [(noteNavigator here).launchElement_of_ok (fun _ same => by cases same) classified,
    bind_ok session_run, mode]
  refine ((noteNavigator here).openMenu_blocking offered built mode).trans ?_
  exact ((noteNavigator here).interact_of_selects read selects).trans launched

theorem noteNavigator_launch {s : Session} (mode : s.mode = .blocking)
    (located : s.location? = some here) :
    ∃ error after, (noteNavigator here).launch noteThenFlaw ⟨s, (), []⟩ =
      (.error (.refused error), after) ∧ after.session = s.clearPending.checkpoint.2 := by
  let course : Course Unit := ⟨s, (), []⟩
  obtain ⟨mid, same, menu⟩ := noteNavigator_menu (show course.session.mode = .blocking from mode)
    (show course.session.location? = some here from located) "" 0
  have misread : Command.classify (.obj [("colour", .str "red")]) =
      .error (.unrecognized ["colour"]) := by rfl
  refine ⟨.configuration "[1]" (CommandError.unrecognized ["colour"]).message, mid.prepared true, ?_,
    congrArg (fun s => s.clearPending.checkpoint.2) same⟩
  refine (bind_ok menu).trans (bind_error ?_)
  rw [(noteNavigator here).launchElement_of_error (fun _ same => by cases same) misread]
  rfl

end Trace

/-! ## Sessions that show no trace -/

/-- A refused launch leaves the session as it was, but for the keys that menus have dispatched
meanwhile. It is always as it was if the client answers the menus, if the session is nowhere, and if
there is neither pending input nor an anchor to set; every other session may have changed. -/
theorem launch_halted_session (s : Session) :
    (∀ {World : Type} (n : Navigator World) {command : Command} {course after : Course World}
      {halt : Halt}, course.session = s → n.launch command course = (.error halt, after) →
        after.session = s ∨ s.mode = .blocking ∧ ∃ here anchor, s.location? = some here ∧
          after.session = s.clearPending.anchoredIf anchor) ∧
    ((∀ {World : Type} (n : Navigator World) {command : Command} {course after : Course World}
      {error : DispatchError}, course.session = s →
        n.launch command course = (.error (.refused error), after) → after.session = s) ↔
      s.mode = .nonBlocking ∨ s.location? = none ∨
        s.pending = none ∧ s.trail.getLast? = s.location?) := by
  refine ⟨fun n _ _ _ _ here halted => here ▸ n.launch_error halted, ?_, ?_⟩
  · intro kept
    cases mode : s.mode with
    | nonBlocking => exact .inl rfl
    | blocking =>
      cases located : s.location? with
      | none => exact .inr (.inl rfl)
      | some here =>
        -- there is a navigator that spends whatever a session has to spend
        obtain ⟨error, after, halted, left⟩ := noteNavigator_launch mode located
        have same := left.symm.trans (kept (noteNavigator here) rfl halted)
        exact .inr (.inr (located ▸ idle_of_spent located same))
  · intro safe World n command course after error here halted
    rcases n.launch_error halted with same | ⟨blocking, traces⟩
    · exact same.trans here
    · rw [here] at blocking traces
      rcases safe with remote | nowhere | ⟨idle, ends⟩
      · rw [remote] at blocking
        cases blocking
      · obtain ⟨there, _, located, _⟩ := traces
        rw [nowhere] at located
        cases located
      · exact Spends.eq_self (.inr traces) idle ends

namespace Sample

def detour : Command := .sequence [.obj [("menu", .arr [.str "note"])], .str "link(./missing)"]

/-- The note anchors the main block, and the link behind the menu is refused. -/
theorem launch_halted_anchored :
    ∃ after, navigator.launch detour (visit .blocking ["note"] [.ok (.ok .null)]) =
        (.error missing, after) ∧
      after.session ≠ (visit .blocking ["note"] [.ok (.ok .null)]).session ∧
      after.session.trail = [⟨"/app", "main"⟩] := by
  have refused : (navigator.launch detour (visit .blocking ["note"] [.ok (.ok .null)])).1 =
      .error missing := by decide +kernel
  have anchored : (navigator.launch detour
      (visit .blocking ["note"] [.ok (.ok .null)])).2.session.trail = [⟨"/app", "main"⟩] := by
    decide +kernel
  have bare : (visit .blocking ["note"] [.ok (.ok .null)]).session.trail = [] := by decide +kernel
  refine ⟨_, run_error refused, fun same => ?_, anchored⟩
  rw [same, bare] at anchored
  cases anchored

end Sample

end Navigator

end Signpost
