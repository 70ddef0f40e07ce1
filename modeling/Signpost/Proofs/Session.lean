import Signpost.Proofs.Breadcrumbs
import Signpost.Proofs.History
import Signpost.Session

/-! How a session changes between two moves.

Without a move a session rests, which changes pending input only, or it lingers, which may also
anchor the current location. Anchoring twice is anchoring once, so lingering has no memory: however
often it happens, the active trail has grown by the current location or not at all. -/

namespace Signpost.Session

variable {s s' mid : Session}

/-! ## Anchoring -/

theorem path_of_location {here : Location} (located : s.location? = some here) :
    s.path = some here.path := by
  unfold location? at located
  split at located
  next =>
    cases located
    assumption
  next => cases located

theorem checkpoint_of_location {here : Location} (located : s.location? = some here) :
    s.checkpoint.2 = { s with breadcrumbs := (s.breadcrumbs.push s.scope here).2 } := by
  unfold checkpoint
  rw [located]

theorem checkpoint_of_nowhere (nowhere : s.location? = none) : s.checkpoint.2 = s := by
  unfold checkpoint
  rw [nowhere]

/-- An anchor changes the trails and nothing else. -/
theorem checkpoint_eq (s : Session) :
    s.checkpoint.2 = { s with breadcrumbs := s.checkpoint.2.breadcrumbs } := by
  cases located : s.location? with
  | none => rw [checkpoint_of_nowhere located]
  | some here => rw [checkpoint_of_location located]

@[simp] theorem checkpoint_location? : s.checkpoint.2.location? = s.location? := by
  rw [checkpoint_eq]
  rfl

@[simp] theorem checkpoint_checkpoint : s.checkpoint.2.checkpoint.2 = s.checkpoint.2 := by
  cases located : s.location? with
  | none => rw [checkpoint_of_nowhere located, checkpoint_of_nowhere located]
  | some here =>
    have anchored : s.checkpoint.2.location? = some here := checkpoint_location?.trans located
    rw [checkpoint_of_location anchored, checkpoint_of_location located, Breadcrumbs.push_push]

theorem checkpoint_pending (pending : Option Pending) :
    ({ s with pending := pending } : Session).checkpoint.2 =
      { s.checkpoint.2 with pending := pending } := by
  cases located : s.location? with
  | none =>
    rw [checkpoint_of_nowhere located]
    exact checkpoint_of_nowhere located
  | some here =>
    rw [checkpoint_of_location located]
    exact checkpoint_of_location located

/-- The active trail afterwards: as before, or longer by the current location. -/
theorem checkpoint_trail : s.checkpoint.2.trail = s.trail ∨
    ∃ here, s.location? = some here ∧ s.checkpoint.2.trail = s.trail ++ [here] := by
  cases located : s.location? with
  | none => exact .inl (by rw [checkpoint_of_nowhere located])
  | some here =>
    have pushed : s.checkpoint.2.trail =
        if s.breadcrumbs.tail? s.scope = some here then s.trail else s.trail ++ [here] := by
      rw [checkpoint_of_location located]
      exact Breadcrumbs.trail_push_self
    split at pushed
    · exact .inl pushed
    · exact .inr ⟨here, rfl, pushed⟩

theorem checkpoint_other {scope : String} (different : scope ≠ s.scope) :
    s.checkpoint.2.breadcrumbs.trail scope = s.breadcrumbs.trail scope := by
  cases located : s.location? with
  | none => rw [checkpoint_of_nowhere located]
  | some here =>
    rw [checkpoint_of_location located]
    exact Breadcrumbs.trail_push_of_ne different

/-- An anchor leaves the session alone exactly if it leaves the active trail alone. -/
theorem checkpoint_eq_self_iff : s.checkpoint.2 = s ↔ s.checkpoint.2.trail = s.trail := by
  constructor
  · intro same
    rw [same]
  · intro same
    cases located : s.location? with
    | none => exact checkpoint_of_nowhere located
    | some here =>
      rw [checkpoint_of_location located] at same ⊢
      have pushed : (s.breadcrumbs.push s.scope here).2.trail s.scope = s.trail := same
      rw [Breadcrumbs.trail_push_self] at pushed
      split at pushed
      next ends => rw [Breadcrumbs.push_of_tail ends]
      next away =>
        have longer := congrArg List.length pushed
        simp [trail] at longer

/-- Which takes a location that the active trail does not end with. -/
theorem checkpoint_ne_self_iff :
    s.checkpoint.2 ≠ s ↔ ∃ here, s.location? = some here ∧ s.trail.getLast? ≠ some here := by
  constructor
  · intro changed
    cases located : s.location? with
    | none => exact absurd (checkpoint_of_nowhere located) changed
    | some here =>
      refine ⟨here, rfl, fun ends => changed ?_⟩
      rw [checkpoint_of_location located, Breadcrumbs.push_of_tail ends]
  · rintro ⟨here, located, away⟩ same
    have trail := checkpoint_eq_self_iff.mp same
    rw [checkpoint_of_location located] at trail
    have ends : (s.breadcrumbs.push s.scope here).2.tail? s.scope = some here :=
      Breadcrumbs.tail?_push
    exact away ((congrArg List.getLast? trail).symm.trans ends)

def anchoredIf (anchor : Bool) (s : Session) : Session := if anchor then s.checkpoint.2 else s

theorem anchoredIf_anchoredIf (first second : Bool) :
    (s.anchoredIf first).anchoredIf second = s.anchoredIf (first || second) := by
  cases first <;> cases second <;> simp [anchoredIf]

theorem anchoredIf_pending (anchor : Bool) (pending : Option Pending) :
    ({ s with pending := pending } : Session).anchoredIf anchor =
      { s.anchoredIf anchor with pending := pending } := by
  cases anchor
  · rfl
  · exact checkpoint_pending pending

theorem pending_anchoredIf (anchor : Bool) : (s.anchoredIf anchor).pending = s.pending := by
  cases anchor
  · rfl
  · change s.checkpoint.2.pending = s.pending
    rw [checkpoint_eq]

theorem anchoredIf_eq_self_iff {anchor : Bool} :
    s.anchoredIf anchor = s ↔ (s.anchoredIf anchor).trail = s.trail := by
  cases anchor
  · exact iff_of_true rfl rfl
  · exact checkpoint_eq_self_iff

/-! ## Stepping back -/

theorem stepBack_of_some {location : Location} {time : Timestamp}
    (found : (s.breadcrumbs.back s.scope).1 = some location) :
    s.stepBack time = (some location,
      ({ s with breadcrumbs := (s.breadcrumbs.back s.scope).2 } : Session).moveTo location "back"
        time) := by
  simp only [stepBack, found]

theorem stepBack_of_none {time : Timestamp} (stuck : (s.breadcrumbs.back s.scope).1 = none) :
    s.stepBack time = (none, { s with breadcrumbs := (s.breadcrumbs.back s.scope).2 }) := by
  simp only [stepBack, stuck]

/-- Whether it leads somewhere or not, a step back is neither an answer nor a change of user. -/
theorem stepBack_frame (s : Session) (time : Timestamp) :
    (s.stepBack time).2.pending = s.pending ∧ (s.stepBack time).2.identity = s.identity := by
  cases back : (s.breadcrumbs.back s.scope).1 with
  | none => simp [stepBack_of_none back]
  | some location => simp [stepBack_of_some back, moveTo]

/-! ## Between two moves -/

/-- What a relation has to allow to describe a session between two moves: nothing happens, and one
change follows another. -/
structure Dwelling (stay : Session → Session → Prop) : Prop where
  refl : ∀ s, stay s s
  trans : ∀ {s mid s'}, stay s mid → stay mid s' → stay s s'

/-- Besides, pending input may come and go. -/
structure Waiting (stay : Session → Session → Prop) : Prop extends Dwelling stay where
  pending : ∀ s pending, stay s { s with pending := pending }

/-- It may come where the client answers it. -/
structure Suspending (stay : Session → Session → Prop) : Prop extends Dwelling stay where
  suspended : ∀ s pending, s.mode = .nonBlocking → stay s (s.setPending pending)

theorem Waiting.suspending {stay : Session → Session → Prop} (waiting : Waiting stay) :
    Suspending stay where
  toDwelling := waiting.toDwelling
  suspended s pending _ := waiting.pending s (some pending)

theorem eq_dwelling : Dwelling Eq where
  refl _ := rfl
  trans := Eq.trans

/-- Only pending input may have changed. -/
def Rests (s s' : Session) : Prop := s' = { s with pending := s'.pending }

/-- The current location may have been anchored besides. -/
def Lingers (s s' : Session) : Prop := ∃ anchor, Rests (s.anchoredIf anchor) s'

theorem Rests.trans (first : Rests s mid) (second : Rests mid s') : Rests s s' := by
  unfold Rests at first second ⊢
  rw [first] at second
  exact second

theorem Rests.anchoredIf (rests : Rests s s') (anchor : Bool) :
    Rests (s.anchoredIf anchor) (s'.anchoredIf anchor) := by
  unfold Rests at rests ⊢
  rw [rests, anchoredIf_pending]

/-- Pending input that is taken out and put back again has not changed. -/
theorem Rests.restored {anchor : Bool} (rests : Rests (s.clearPending.anchoredIf anchor) s') :
    { s' with pending := s.pending } = s.anchoredIf anchor := by
  have dropped : Rests s s.clearPending := rfl
  have kept := (dropped.anchoredIf anchor).trans rests
  have waits : (s.anchoredIf anchor).pending = s.pending := pending_anchoredIf anchor
  unfold Rests at kept
  rw [kept, ← waits]

theorem Rests.lingers {anchor : Bool} (rests : Rests (s.anchoredIf anchor) s') : Lingers s s' :=
  ⟨anchor, rests⟩

theorem rests_waiting : Waiting Rests where
  refl _ := rfl
  trans := Rests.trans
  pending _ _ := rfl

theorem rests_dwelling : Dwelling Rests := rests_waiting.toDwelling

theorem Lingers.trans (first : Lingers s mid) (second : Lingers mid s') : Lingers s s' := by
  obtain ⟨anchor, first⟩ := first
  obtain ⟨again, second⟩ := second
  have both := (first.anchoredIf again).trans second
  rw [anchoredIf_anchoredIf] at both
  exact both.lingers

theorem lingers_waiting : Waiting Lingers where
  refl _ := ⟨false, rfl⟩
  trans := Lingers.trans
  pending _ _ := ⟨false, rfl⟩

theorem lingers_dwelling : Dwelling Lingers := lingers_waiting.toDwelling

theorem lingers_checkpoint (s : Session) : Lingers s s.checkpoint.2 := ⟨true, rfl⟩

/-! ## Moving -/

def Moves (stay : Session → Session → Prop) (s : Session) (location : Location) (s' : Session) :
    Prop :=
  ∃ mid context time, stay s mid ∧ s' = mid.relocate location context time

theorem Moves.after {stay : Session → Session → Prop} (dwelling : Dwelling stay)
    {location : Location} (before : stay s mid) (moves : Moves stay mid location s') :
    Moves stay s location s' := by
  obtain ⟨last, context, time, waited, moved⟩ := moves
  exact ⟨last, context, time, dwelling.trans before waited, moved⟩

/-! ## What is seen of it

Of two sessions, one before and one after: where the second is, how its active trail and its history
have grown, and what no dispatch changes. -/

/-- The session is where it was. The active trail may have grown by this very location. -/
structure Remains (s s' : Session) : Prop where
  path : s'.path = s.path
  block : s'.block = s.block
  history : s'.history = s.history
  trail : s'.trail = s.trail ∨ ∃ here, s.location? = some here ∧ s'.trail = s.trail ++ [here]

/-- The session is at the location, where its active trail ends, and one move to it has been recorded
behind the last ones before it, of which there is room for forty-nine. -/
structure Arrives (s : Session) (location : Location) (s' : Session) : Prop where
  place : s'.location? = some location
  tail : s'.trail.getLast? = some location
  history : ∃ kept context time, s'.history.entries = kept ++ [⟨location, context, time⟩] ∧
    kept <:+ s.history.entries ∧ kept.length = min 49 s.history.entries.length

/-- Scope, mode and identity are the same, and so are the trails of the scopes that are not
active. -/
structure SameFrame (s s' : Session) : Prop where
  scope : s'.scope = s.scope
  mode : s'.mode = s.mode
  identity : s'.identity = s.identity
  others : ∀ scope, scope ≠ s.scope → s'.breadcrumbs.trail scope = s.breadcrumbs.trail scope

theorem SameFrame.trans (first : SameFrame s mid) (second : SameFrame mid s') : SameFrame s s' where
  scope := second.scope.trans first.scope
  mode := second.mode.trans first.mode
  identity := second.identity.trans first.identity
  others scope different :=
    (second.others scope (first.scope ▸ different)).trans (first.others scope different)

theorem Rests.remains (rests : Rests s s') : Remains s s' := by
  unfold Rests at rests
  rw [rests]
  exact ⟨rfl, rfl, rfl, .inl rfl⟩

theorem Rests.sameFrame (rests : Rests s s') : SameFrame s s' := by
  unfold Rests at rests
  rw [rests]
  exact ⟨rfl, rfl, rfl, fun _ _ => rfl⟩

theorem checkpoint_remains (s : Session) : Remains s s.checkpoint.2 := by
  have trail := checkpoint_trail (s := s)
  rw [checkpoint_eq] at trail ⊢
  exact ⟨rfl, rfl, rfl, trail⟩

theorem checkpoint_sameFrame (s : Session) : SameFrame s s.checkpoint.2 := by
  have others := fun scope (different : scope ≠ s.scope) => checkpoint_other different
  rw [checkpoint_eq] at others ⊢
  exact ⟨rfl, rfl, rfl, others⟩

theorem Lingers.remains (lingers : Lingers s s') : Remains s s' := by
  obtain ⟨anchor, rests⟩ := lingers
  cases anchor with
  | false => exact rests.remains
  | true =>
    have anchored := checkpoint_remains s
    have kept := rests.remains
    have same : s'.trail = s.checkpoint.2.trail := by
      rw [show s' = _ from rests]
      rfl
    exact ⟨kept.path.trans anchored.path, kept.block.trans anchored.block,
      kept.history.trans anchored.history, by rw [same]; exact anchored.trail⟩

theorem Lingers.location? (lingers : Lingers s s') : s'.location? = s.location? := by
  unfold Session.location?
  rw [lingers.remains.path, lingers.remains.block]

theorem Lingers.sameFrame (lingers : Lingers s s') : SameFrame s s' := by
  obtain ⟨anchor, rests⟩ := lingers
  cases anchor with
  | false => exact rests.sameFrame
  | true => exact (checkpoint_sameFrame s).trans rests.sameFrame

theorem relocate_sameFrame (s : Session) (location : Location) (context : String)
    (time : Timestamp) : SameFrame s (s.relocate location context time) :=
  ⟨rfl, rfl, rfl, fun _ different => Breadcrumbs.trail_push_of_ne different⟩

theorem relocate_arrives (s : Session) (location : Location) (context : String)
    (time : Timestamp) : Arrives s location (s.relocate location context time) := by
  obtain ⟨kept, recorded⟩ := History.entries_record s.history ⟨location, context, time⟩
  exact ⟨rfl, Breadcrumbs.tail?_push, kept, context, time, recorded⟩

theorem Moves.sameFrame {location : Location} (moves : Moves Lingers s location s') :
    SameFrame s s' := by
  obtain ⟨last, context, time, waited, rfl⟩ := moves
  exact waited.sameFrame.trans (relocate_sameFrame last location context time)

theorem Moves.arrives {location : Location} (moves : Moves Lingers s location s') :
    Arrives s location s' := by
  obtain ⟨last, context, time, waited, rfl⟩ := moves
  have arrived := relocate_arrives last location context time
  exact ⟨arrived.place, arrived.tail, waited.remains.history ▸ arrived.history⟩

end Signpost.Session
