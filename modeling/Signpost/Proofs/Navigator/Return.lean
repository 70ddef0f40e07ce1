import Signpost.Proofs.Navigator.Coherence
import Signpost.Proofs.Navigator.NonBlocking

/-! Stepping back after a move.

A move appends its destination to the active trail, and a step back leads to what stands before it.
This is the place that was left, as long as the trail ended there: it always does unless the trail has
been emptied by a step back that led nowhere. Then the place is remembered only if it has been anchored
before the move. -/

namespace Signpost

namespace Session

variable {s s' : Session} {here there : Location}

theorem anchoredIf_location? (anchor : Bool) : (s.anchoredIf anchor).location? = s.location? := by
  cases anchor
  · rfl
  · exact checkpoint_location?

theorem Coherent.anchoredIf (coherent : s.Coherent) (anchor : Bool) :
    (s.anchoredIf anchor).Coherent := by
  cases anchor
  · exact coherent
  · exact coherent.checkpoint

theorem Coherent.trail_ends (coherent : s.Coherent) (located : s.location? = some here) :
    s.trail = [] ∨ s.trail.getLast? = some here := by
  rcases coherent.tail with empty | ⟨place, placed, ends⟩
  · exact .inl empty
  · rw [located] at placed
    cases placed
    exact .inr ends

theorem checkpoint_trail_ends (located : s.location? = some here) :
    s.checkpoint.2.trail.getLast? = some here := by
  rw [checkpoint_of_location located]
  exact Breadcrumbs.tail?_push

theorem checkpoint_trail_of_empty (located : s.location? = some here) (empty : s.trail = []) :
    s.checkpoint.2.trail = [here] := by
  have ends := checkpoint_trail_ends located
  rcases checkpoint_trail (s := s) with same | ⟨place, placed, longer⟩
  · rw [same, empty] at ends
    cases ends
  · rw [longer, empty, List.nil_append] at ends ⊢
    exact congrArg ([·]) (Option.some.inj ends)

/-- A move to another place makes the active trail longer by this place, after an anchor at most. -/
theorem Moves.trail (coherent : s.Coherent) (located : s.location? = some here)
    (away : there ≠ here) (moves : Moves Lingers s there s') :
    ∃ anchor, s'.trail = (s.anchoredIf anchor).trail ++ [there] := by
  obtain ⟨mid, context, time, ⟨anchor, rests⟩, rfl⟩ := moves
  have same : mid.trail = (s.anchoredIf anchor).trail := by
    rw [show mid = _ from rests]
    rfl
  refine ⟨anchor, ?_⟩
  have elsewhere : mid.breadcrumbs.tail? mid.scope ≠ some there := by
    intro ends
    have ends : (s.anchoredIf anchor).trail.getLast? = some there := same ▸ ends
    rcases (coherent.anchoredIf anchor).trail_ends ((anchoredIf_location? anchor).trans located) with
      empty | last
    · rw [empty] at ends
      cases ends
    · rw [ends] at last
      exact away (Option.some.inj last)
  have pushed : (mid.relocate there context time).trail = if _ then _ else _ :=
    Breadcrumbs.trail_push_self
  rw [pushed, if_neg elsewhere, ← same]
  rfl

/-- A step back leads to the end of what is left of the trail. -/
theorem back_destination (s : Session) :
    (s.breadcrumbs.back s.scope).1 = s.trail.dropLast.getLast? := by
  rw [Breadcrumbs.back_destination, Breadcrumbs.tail?, Breadcrumbs.trail_back_self]
  rfl

end Session

namespace Navigator

open Act Session

variable {World : Type} (n : Navigator World) {course after : Course World} {here there : Location}

/-- A step back leads here. -/
def ReturnsTo (here : Location) (after : Course World) : Prop :=
  ∃ back, n.goBack after = (.ok (.relocated here), back) ∧ back.session.location? = some here

/-- A step back leads nowhere, and the session stays there. -/
def StrandsAt (there : Location) (after : Course World) : Prop :=
  ∃ back, n.goBack after = (.ok .empty, back) ∧ back.session.location? = some there

theorem returnsTo_of_trail {visited : Trail} (trail : after.session.trail = visited ++ [there])
    (ends : visited.getLast? = some here) : n.ReturnsTo here after := by
  have back : (after.session.clearPending.breadcrumbs.back after.session.clearPending.scope).1 =
      some here := by
    refine after.session.clearPending.back_destination.trans ?_
    change after.session.trail.dropLast.getLast? = some here
    rw [trail, List.dropLast_concat, ends]
  unfold ReturnsTo goBack
  rw [stepBack_of_some back]
  exact ⟨_, rfl, rfl⟩

theorem strandsAt_of_trail (trail : after.session.trail = [there])
    (located : after.session.location? = some there) : n.StrandsAt there after := by
  have stuck : (after.session.clearPending.breadcrumbs.back after.session.clearPending.scope).1 =
      none := by
    refine after.session.clearPending.back_destination.trans ?_
    change after.session.trail.dropLast.getLast? = none
    rw [trail]
    rfl
  unfold StrandsAt goBack
  rw [stepBack_of_none stuck]
  exact ⟨_, rfl, located⟩

theorem returnsTo_of_moves {s : Session} (coherent : s.Coherent) (located : s.location? = some here)
    (kept : s.trail ≠ []) (moves : s.Moves Lingers there after.session) (away : there ≠ here) :
    n.ReturnsTo here after := by
  obtain ⟨anchor, trail⟩ := moves.trail coherent located away
  refine n.returnsTo_of_trail trail ?_
  cases anchor with
  | false => exact (coherent.trail_ends located).resolve_left kept
  | true => exact checkpoint_trail_ends located

/-- Otherwise it can be returned to only if it has been anchored meanwhile. -/
theorem returnsTo_or_strandsAt {s : Session} (coherent : s.Coherent)
    (located : s.location? = some here) (empty : s.trail = [])
    (moves : s.Moves Lingers there after.session) (away : there ≠ here) :
    (after.session.trail = [here, there] ∧ n.ReturnsTo here after) ∨
      (after.session.trail = [there] ∧ n.StrandsAt there after) := by
  obtain ⟨anchor, trail⟩ := moves.trail coherent located away
  cases anchor with
  | false =>
    have alone : after.session.trail = [there] := by
      rw [trail, anchoredIf, if_neg Bool.false_ne_true, empty]
      rfl
    exact .inr ⟨alone, n.strandsAt_of_trail alone moves.arrives.place⟩
  | true =>
    have both : after.session.trail = [here] ++ [there] := by
      rw [trail, anchoredIf, if_pos rfl, checkpoint_trail_of_empty located empty]
    exact .inl ⟨both, n.returnsTo_of_trail both rfl⟩

/-- The written key that the call stands for carries the mark of an anchor. -/
def Anchors (course : Course World) : Call → Prop
  | .dispatchKey key => ∃ document block loaded written command,
      n.currentDocument course = (.ok (document, block), loaded) ∧
        document.lookupKey? block key = some (written, command) ∧
        (Key.read written).2.anchor = true
  | _ => False

theorem launchKey_leads_prepared {nested : String → Value → Act World Outcome}
    (inner : ∀ key value, (nested key value).Travels Lingers) (key : String) (followUp : FollowUp)
    (command : Command) (course : Course World) :
    (course.prepared followUp.anchor).session.Leads Lingers
      (n.launchKey nested key followUp command course).1
      (n.launchKey nested key followUp command course).2.session := by
  have launched := n.launchWith_travels lingers_waiting.suspending
    (fun key value => (inner key value).placed) key followUp command
  rw [launchKey_run]
  refine Travels.handOn lingers_dwelling ?_ (fun outcome => .inl ⟨followUp, rfl⟩) _
  split
  · exact n.launchRequired_travels lingers_waiting launched key command followUp _ _
  · exact launched

theorem moves_of_anchored {key : String} {value : Value} (marked : (Key.read key).2.anchor = true)
    (answered : n.dispatch key value course = (.ok (.relocated there), after)) :
    course.session.clearPending.checkpoint.2.Moves Lingers there after.session := by
  obtain ⟨depth, command, _, _, launched⟩ := n.of_dispatch_ok answered
  have leads := n.launchKey_leads_prepared (n.dispatchWithin_travels depth) (Key.read key).1
    (FollowUp.ofKey course.session.mode key).2 command course
  have anchored : (FollowUp.ofKey course.session.mode key).2.anchor = true := marked
  rw [launched, anchored] at leads
  exact leads

theorem moves_of_anchors {call : Call} (anchors : n.Anchors course call)
    (answered : n.perform call course = (.ok (.relocated there), after)) :
    course.session.clearPending.checkpoint.2.Moves Lingers there after.session := by
  cases call with
  | dispatchKey key =>
    obtain ⟨document, block, loaded, written, command, found, looked, marked⟩ := anchors
    have dispatched : n.dispatchKey key course = n.dispatch written command loaded := by
      refine (bind_ok found).trans ?_
      simp only [looked]
    rw [← n.currentDocument_still.of_run found]
    exact n.moves_of_anchored marked (dispatched.symm.trans answered)
  | _ => cases anchors

/-- Where the trail has not been emptied, and where the key anchors the place that it leaves, a step
back returns to this place. From an empty trail it returns there only if something else has anchored
the place before the move, and the session is stranded otherwise. -/
theorem goBack_returns {permitted : {World : Type} → Navigator World → Call → Prop}
    (reached : Reached permitted course.session) (located : course.session.location? = some here)
    {call : Call} (launches : call.launches = true)
    (answered : n.perform call course = (.ok (.relocated there), after)) (away : there ≠ here) :
    (course.session.trail ≠ [] ∨ n.Anchors course call → n.ReturnsTo here after) ∧
      (course.session.trail = [] →
        (after.session.trail = [here, there] ∧ n.ReturnsTo here after) ∨
          (after.session.trail = [there] ∧ n.StrandsAt there after)) := by
  have coherent := reached_coherent reached
  have moves : course.session.Moves Lingers there after.session :=
    (n.perform_travels launches).of_run answered
  refine ⟨?_, fun empty => n.returnsTo_or_strandsAt coherent located empty moves away⟩
  rintro (kept | anchors)
  · exact n.returnsTo_of_moves coherent located kept moves away
  · have dropped : course.session.clearPending.location? = some here := located
    have anchored := checkpoint_trail_ends dropped
    have kept : course.session.clearPending.checkpoint.2.trail ≠ [] := by
      intro empty
      rw [empty] at anchored
      cases anchored
    exact n.returnsTo_of_moves (coherent.pending none).checkpoint
      (checkpoint_location?.trans dropped) kept (n.moves_of_anchors anchors answered) away

namespace Sample

def mainBlock : Location := ⟨"/app", "main"⟩

def endBlock : Location := ⟨"/app", "end"⟩

/-- A step back from the start of the document empties the trail, and then a link is followed. -/
theorem goBack_not_returnsTo :
    Reached (fun _ _ => True) (navigator.performAll [.start "/app", .goBack] arrival).session ∧
      (navigator.performAll [.start "/app", .goBack] arrival).session.location? = some mainBlock ∧
      (navigator.perform (.dispatchKey "leave")
        (navigator.performAll [.start "/app", .goBack] arrival)).1 = .ok (.relocated endBlock) ∧
      ¬navigator.ReturnsTo mainBlock
        (navigator.performAll [.start "/app", .goBack, .dispatchKey "leave"] arrival) := by
  have fresh : Reached (fun _ _ => True) arrival.session := .new .blocking {}
  refine ⟨fresh.run navigator fun _ _ => trivial, by decide +kernel, by decide +kernel, ?_⟩
  rintro ⟨back, returned, _⟩
  have stranded : (navigator.goBack (navigator.performAll
      [.start "/app", .goBack, .dispatchKey "leave"] arrival)).1 ≠ .ok (.relocated mainBlock) := by
    decide +kernel
  exact stranded (congrArg Prod.fst returned)

/-- The same link, where the document has only been opened. -/
theorem goBack_returns_leave :
    navigator.ReturnsTo mainBlock
      (navigator.perform (.dispatchKey "leave") (navigator.performAll [.start "/app"] arrival)).2 := by
  have fresh : Reached (fun _ _ => True) arrival.session := .new .blocking {}
  have reached : Reached (fun _ _ => True)
      (navigator.performAll [.start "/app"] arrival).session :=
    fresh.run navigator fun _ _ => trivial
  have located : (navigator.performAll [.start "/app"] arrival).session.location? = some mainBlock := by
    decide +kernel
  have moved : (navigator.perform (.dispatchKey "leave")
      (navigator.performAll [.start "/app"] arrival)).1 = .ok (.relocated endBlock) := by
    decide +kernel
  have kept : (navigator.performAll [.start "/app"] arrival).session.trail ≠ [] := by
    decide +kernel
  have launches : (Call.dispatchKey "leave").launches = true := rfl
  exact (navigator.goBack_returns reached located launches (run_ok moved) (by decide)).1 (.inl kept)

end Sample

end Navigator

end Signpost
