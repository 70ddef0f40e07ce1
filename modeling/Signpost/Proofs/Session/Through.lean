import Signpost.Proofs.History
import Signpost.Proofs.Session

/-! Sessions that have been to locations of one kind only.

Moves bring in a location, anchors and steps back repeat those that the session has already. So the
kind of the locations is settled when they are moved to. -/

namespace Signpost.Session

/-- Trails, history and place are of one kind, and so are the times of the moves. -/
structure Through (kind : Location → Prop) (moment : Timestamp → Prop) (s : Session) : Prop where
  trails : s.breadcrumbs.Within kind
  history : ∀ entry ∈ s.history.entries, kind entry.location ∧ moment entry.time
  place : ∀ here, s.location? = some here → kind here

variable {kind : Location → Prop} {moment : Timestamp → Prop} {s : Session}

theorem through_new (mode : Mode) (identity : Identity) :
    Through kind moment { Session.new mode with identity := identity } where
  trails := nofun
  history := nofun
  place := nofun

namespace Through

theorem pending (through : s.Through kind moment) (pending : Option Pending) :
    Through kind moment { s with pending := pending } where
  trails := through.trails
  history := through.history
  place := through.place

theorem enterScope (through : s.Through kind moment) (scope : String) :
    (s.enterScope scope).Through kind moment where
  trails := through.trails
  history := through.history
  place := through.place

theorem checkpoint (through : s.Through kind moment) : s.checkpoint.2.Through kind moment := by
  cases located : s.location? with
  | none =>
    rw [checkpoint_of_nowhere located]
    exact through
  | some here =>
    rw [checkpoint_of_location located]
    exact {
      trails := through.trails.push (through.place here located)
      history := through.history
      place := through.place }

variable {location : Location} {time : Timestamp}

theorem moveTo (through : s.Through kind moment) (arrived : kind location) (now : moment time)
    (context : String) : (s.moveTo location context time).Through kind moment where
  trails := through.trails
  history entry member := by
    rcases History.mem_record member with old | new
    · exact through.history entry old
    · rw [new]
      exact ⟨arrived, now⟩
  place here located := by
    cases located
    exact arrived

theorem relocate (through : s.Through kind moment) (arrived : kind location) (now : moment time)
    (context : String) : (s.relocate location context time).Through kind moment :=
  { through.moveTo arrived now context with trails := through.trails.push arrived }

theorem stepBack (through : s.Through kind moment) (now : moment time) :
    (s.stepBack time).2.Through kind moment := by
  have shortened : Through kind moment { s with breadcrumbs := (s.breadcrumbs.back s.scope).2 } :=
    { through with trails := through.trails.back }
  cases back : (s.breadcrumbs.back s.scope).1 with
  | none =>
    rw [stepBack_of_none back]
    exact shortened
  | some location =>
    rw [stepBack_of_some back]
    exact shortened.moveTo (through.trails.destination back) now _

end Through

end Signpost.Session
