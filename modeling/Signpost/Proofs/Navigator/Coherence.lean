import Signpost.Proofs.History
import Signpost.Proofs.Navigator.OneMove

/-! Every session that calls lead to is coherent.

What a move leaves behind is coherent whatever was there before, as long as no trail repeats itself.
Anchoring and pending input keep a coherent session coherent, and so does a step back, which ends at
the end of the shortened trail or empties the trail. -/

namespace Signpost

namespace Session

variable {s s' : Session}

/-- Place, active trail and history agree with each other. -/
structure Coherent (s : Session) : Prop where
  whole : s.path.isSome = s.block.isSome
  tail : s.trail = [] ∨ ∃ here, s.location? = some here ∧ s.trail.getLast? = some here
  apart : s.breadcrumbs.Apart
  bounded : s.history.length ≤ 50
  newest : ∀ here, s.location? = some here →
    ∃ entry, s.history.last? = some entry ∧ entry.location = here

theorem coherent_new (mode : Mode) (identity : Identity) :
    Coherent { Session.new mode with identity := identity } where
  whole := rfl
  tail := .inl rfl
  apart := nofun
  bounded := Nat.zero_le _
  newest := nofun

theorem Coherent.pending (coherent : s.Coherent) (pending : Option Pending) :
    Coherent { s with pending := pending } where
  whole := coherent.whole
  tail := coherent.tail
  apart := coherent.apart
  bounded := coherent.bounded
  newest := coherent.newest

theorem Coherent.checkpoint (coherent : s.Coherent) : s.checkpoint.2.Coherent := by
  cases located : s.location? with
  | none =>
    rw [checkpoint_of_nowhere located]
    exact coherent
  | some here =>
    rw [checkpoint_of_location located]
    exact {
      whole := coherent.whole
      tail := .inr ⟨here, located, Breadcrumbs.tail?_push⟩
      apart := coherent.apart.push
      bounded := coherent.bounded
      newest := coherent.newest }

theorem Coherent.of_rests (coherent : s.Coherent) (rests : Rests s s') : s'.Coherent := by
  unfold Rests at rests
  rw [rests]
  exact coherent.pending _

theorem Coherent.of_lingers (coherent : s.Coherent) (lingers : Lingers s s') : s'.Coherent := by
  obtain ⟨anchor, rests⟩ := lingers
  cases anchor with
  | false => exact coherent.of_rests rests
  | true => exact coherent.checkpoint.of_rests rests

/-- Of the session before a move only the trails matter. -/
theorem coherent_relocate (apart : s.breadcrumbs.Apart) (location : Location) (context : String)
    (time : Timestamp) : (s.relocate location context time).Coherent where
  whole := rfl
  tail := .inr ⟨location, rfl, Breadcrumbs.tail?_push⟩
  apart := apart.push
  bounded := History.length_record_le _ _
  newest _ located := ⟨_, History.last?_record _ _, Option.some.inj located⟩

theorem Coherent.stepBack (coherent : s.Coherent) (time : Timestamp) :
    (s.stepBack time).2.Coherent := by
  have destination :
      (s.breadcrumbs.back s.scope).1 = (s.breadcrumbs.back s.scope).2.tail? s.scope :=
    Breadcrumbs.back_destination
  unfold Session.stepBack
  cases back : (s.breadcrumbs.back s.scope).1 with
  | none =>
    rw [back] at destination
    have emptied := List.getLast?_eq_none_iff.mp destination.symm
    simp only [back]
    exact {
      whole := coherent.whole
      tail := .inl emptied
      apart := coherent.apart.back
      bounded := coherent.bounded
      newest := coherent.newest }
  | some location =>
    rw [back] at destination
    simp only [back]
    exact {
      whole := rfl
      tail := .inr ⟨location, rfl, destination.symm⟩
      apart := coherent.apart.back
      bounded := History.length_record_le _ _
      newest := fun _ located => ⟨_, History.last?_record _ _, Option.some.inj located⟩ }

theorem Coherent.of_leads (coherent : s.Coherent) {result : Except Halt Outcome}
    (leads : s.Leads Lingers result s') : s'.Coherent := by
  have moved {location : Location} (moves : s.Moves Lingers location s') : s'.Coherent := by
    obtain ⟨mid, context, time, lingers, rfl⟩ := moves
    exact coherent_relocate (coherent.of_lingers lingers).apart location context time
  rcases result with halt | outcome
  · exact coherent.of_lingers leads
  · cases outcome with
    | relocated location => exact moved leads
    | back =>
      rcases leads with lingers | ⟨location, moves⟩
      · exact coherent.of_lingers lingers
      · exact moved moves
    | _ => exact coherent.of_lingers leads

end Session

namespace Navigator

variable {World : Type} (n : Navigator World)

theorem perform_coherent (call : Call) (course : Course World)
    (coherent : course.session.Coherent) : (n.perform call course).2.session.Coherent := by
  by_cases launches : call.launches = true
  · exact coherent.of_leads (n.perform_travels launches course)
  · cases call with
    | start path =>
      rw [perform_start]
      rcases started : n.start path course with ⟨halt | location, after⟩
      · rw [n.start_undone path started]
        exact coherent
      · obtain ⟨document, loaded, block, _, _, _, same⟩ := n.start_ok started
        change after.session.Coherent
        rw [same]
        have apart : (course.session.clearPending.enterScope document.path).breadcrumbs.Apart :=
          coherent.apart
        exact Session.coherent_relocate apart _ _ _
    | goBack => exact (coherent.pending none).stepBack _
    | _ => exact absurd rfl launches

end Navigator

/-- Whatever calls have been made, in whatever order and with whatever success. -/
theorem reached_coherent {permitted : {World : Type} → Navigator World → Call → Prop}
    {s : Session} (reached : Reached permitted s) : s.Coherent := by
  induction reached with
  | new mode identity => exact Session.coherent_new mode identity
  | call n course call _ _ ih => exact n.perform_coherent call course ih

namespace Navigator.Sample

def arrival : Course Script :=
  { visit .blocking ["note", "leave"] [] with session := Session.new .blocking }

/-- The calls open a document, empty its trail, are refused, and move through two menus. -/
def tour : List Call := [.start "/app", .goBack, .dispatchKey "gone", .dispatchKey "trip"]

theorem reached_coherent_tour :
    (navigator.performAll tour arrival).session.Coherent ∧
      (navigator.performAll tour arrival).session.location? = some ⟨"/app", "end"⟩ := by
  have fresh : Reached (fun _ _ => True) arrival.session := .new .blocking {}
  have reached : Reached (fun _ _ => True) (navigator.performAll tour arrival).session :=
    fresh.run navigator fun _ _ => trivial
  exact ⟨reached_coherent reached, by decide +kernel⟩

end Navigator.Sample

end Signpost
