import Signpost.Proofs.Server.Numbers

/-! Requests that do not overlap.

A request that takes all its steps before the next one begins is answered as by the server that handles
one request after the other, and leaves what that server leaves. -/

namespace Signpost.Server

variable {number other : Nat} {session : Session} {sessions : List (Nat × Session)}

theorem lookup_entry {first : Nat} {old : Session} : ((first, old) :: sessions).lookup other =
    if other = first then some old else sessions.lookup other := by
  rw [List.lookup_cons]
  by_cases same : other = first
  · rw [beq_iff_eq.mpr same, if_pos same]
  · rw [beq_false_of_ne same, if_neg same]

theorem lookup_setSession : (setSession number session sessions).lookup other =
    if other = number then some session else sessions.lookup other := by
  induction sessions with
  | nil => exact lookup_entry
  | cons entry rest ih =>
    obtain ⟨first, old⟩ := entry
    unfold setSession
    by_cases here : first = number
    · rw [if_pos here, lookup_entry, lookup_entry, here]
      by_cases same : other = number
      · rw [if_pos same, if_pos same]
      · rw [if_neg same, if_neg same, if_neg same]
    · rw [if_neg here, lookup_entry, lookup_entry, ih]
      by_cases same : other = first
      · rw [if_pos same, if_neg (same ▸ here), if_pos same]
      · rw [if_neg same, if_neg same]

theorem lookup_filter_ne : (sessions.filter (·.1 != number)).lookup other =
    if other = number then none else sessions.lookup other := by
  induction sessions with
  | nil => exact (ite_self none).symm
  | cons entry rest ih =>
    obtain ⟨first, old⟩ := entry
    by_cases here : first = number
    · rw [List.filter_cons_of_neg (by simp [here]), ih, lookup_entry, here]
      by_cases same : other = number
      · rw [if_pos same, if_pos same]
      · rw [if_neg same, if_neg same, if_neg same]
    · rw [List.filter_cons_of_pos (by simp [here]), lookup_entry, lookup_entry, ih]
      by_cases same : other = first
      · rw [if_pos same, if_neg (same ▸ here), if_pos same]
      · rw [if_neg same, if_neg same]

namespace Traffic

variable {project : Project} {t : Traffic} {server : Server} {request : Nat} {inquiry : Inquiry}

structure Shows (project : Project) (t : Traffic) (server : Server) : Prop where
  project : server.project = project
  files : server.files = t.files
  nextNumber : server.nextNumber = t.nextNumber
  sessions : ∀ number, server.sessions.lookup number = (t.table number).map t.sessions

namespace Shows

variable (shows : t.Shows project server)

include shows

theorem enter (session : Session) (path : String) :
    server.enter session path = (vacant project t.files).enter session path := by
  rw [← shows.project, ← shows.files]
  rfl

theorem operate (session : Session) (operation : Operation) :
    server.operate session operation = (vacant project t.files).operate session operation := by
  rw [← shows.project, ← shows.files]
  cases operation <;> rfl

end Shows

variable (project t request) in
def finish : Traffic :=
  ((t.advance project request).advance project request).advance project request

/-- Once a client has been told something, nothing more happens. -/
theorem advance_told {response : Response} (told : (t.stages request).response? = some response) :
    t.advance project request = t := (Advances.rests told).eq.symm

theorem advance_creating {path : String} {result : Except Response Location} {session : Session}
    {files : FileTree} (creating : t.stages request = .creating path)
    (entered : (vacant project t.files).enter (t.sessions request) path = (result, session, files)) :
    t.advance project request =
      { t with files := files, sessions := Function.update t.sessions request session }.setStage
        request (match result with
          | .ok location => .started location
          | .error response => .answered response) := by
  have works : (t.stages request).works? request = some request := by rw [creating]; rfl
  rw [← (Advances.works works).eq, work, effect, creating]
  simp only [Stage.work, entered]
  cases result <;> rfl

theorem advance_holding {opener : Nat} {operation : Operation} {response : Response}
    {session : Session} {files : FileTree} (holding : t.stages request = .holding opener operation)
    (operated : (vacant project t.files).operate (t.sessions opener) operation =
      (response, session, files)) :
    t.advance project request =
      { t with files := files, sessions := Function.update t.sessions opener session }.setStage
        request (.answered response) := by
  have works : (t.stages request).works? request = some opener := by rw [holding]; rfl
  rw [← (Advances.works works).eq, work, effect, holding]
  simp only [Stage.work, operated]

/-- To leave a session that no number leads to in another state changes nothing for anybody. -/
theorem map_update_of_unknown {unknown : Nat} {session : Session} {number : Nat}
    (nowhere : t.table number ≠ some unknown) :
    (t.table number).map (Function.update t.sessions unknown session) =
      (t.table number).map t.sessions := by
  cases found : t.table number with
  | none => rfl
  | some opener =>
    refine congrArg some (Function.update_of_ne ?_ ..)
    rintro rfl
    exact nowhere found

/-- A number is given to a session, or taken from it, and nobody else notices. -/
theorem map_update_update {session : Session} {opener number other : Nat} {entry : Option Nat}
    (elsewhere : ∀ other, other ≠ number → t.table other ≠ some opener) :
    (Function.update t.table number entry other).map (Function.update t.sessions opener session) =
      if other = number then entry.map (Function.update t.sessions opener session)
      else (t.table other).map t.sessions := by
  by_cases same : other = number
  · rw [if_pos same, same, Function.update_self]
  · rw [if_neg same, Function.update_of_ne same, map_update_of_unknown (elsewhere other same)]

theorem create_undisturbed {path : String} {identity : Identity} (shows : t.Shows project server)
    (kept : t.Kept) (creating : t.stages request = .creating path)
    (new : t.sessions request = newSession identity) :
    ((t.finish project request).stages request).response? =
        some (server.openSession path identity).1 ∧
      (t.finish project request).Shows project (server.openSession path identity).2 := by
  have nowhere (number : Nat) : t.table number ≠ some request := by
    intro found
    obtain ⟨_, stored⟩ := kept.table number request found
    rw [creating] at stored
    cases stored
  rcases entered : (vacant project t.files).enter (t.sessions request) path with
    ⟨response | location, session, files⟩
  · have refused : server.enter (newSession identity) path = (.error response, session, files) := by
      rw [shows.enter, ← new, entered]
    have told : ((t.advance project request).stages request).response? = some response := by
      rw [advance_creating creating entered, setStage_self]
      rfl
    have last : t.finish project request = t.advance project request := by
      rw [finish, advance_told told, advance_told told]
    rw [last, openSession, refused]
    refine ⟨told, ?_⟩
    rw [advance_creating creating entered]
    exact ⟨shows.project, rfl, shows.nextNumber, fun number =>
      (shows.sessions number).trans (map_update_of_unknown (nowhere number)).symm⟩
  · have opened : server.enter (newSession identity) path = (.ok location, session, files) := by
      rw [shows.enter, ← new, entered]
    have last : t.finish project request =
        { t with
          files := files
          sessions := Function.update t.sessions request session
          nextNumber := numberAfter t.nextNumber
          table := Function.update t.table t.nextNumber (some request)
        }.setStage request (.stored location t.nextNumber) := by
      rw [finish, advance_creating creating entered, ← (Advances.draws (setStage_self _)).eq,
        ← (Advances.stores (setStage_self _)).eq]
      simp only [setStage, Function.update_idem]
    rw [last, openSession, opened]
    refine ⟨?_, shows.project, rfl, congrArg numberAfter shows.nextNumber, fun number => ?_⟩
    · rw [setStage_self, ← shows.nextNumber]
      rfl
    · refine lookup_setSession.trans (Eq.trans ?_ (map_update_update fun _ _ => nowhere _).symm)
      rw [shows.nextNumber, shows.sessions, Option.map_some, Function.update_self]

theorem visit_undisturbed {number : Nat} {operation : Operation} (shows : t.Shows project server)
    (kept : t.Kept) (seeking : t.stages request = .seeking number operation) :
    ((t.finish project request).stages request).response? =
        some (server.inSession number operation).1 ∧
      (t.finish project request).Shows project (server.inSession number operation).2 := by
  have known := shows.sessions number
  cases found : t.table number with
  | none =>
    rw [found] at known
    have told : ((t.advance project request).stages request).response? =
        some (unknownSession number) := by
      rw [← (Advances.misses seeking found).eq, setStage_self]
      rfl
    have last : t.finish project request = t.advance project request := by
      rw [finish, advance_told told, advance_told told]
    rw [last, inSession, known]
    refine ⟨told, ?_⟩
    rw [← (Advances.misses seeking found).eq]
    exact ⟨shows.project, shows.files, shows.nextNumber, shows.sessions⟩
  | some opener =>
    rw [found] at known
    rcases operated : (vacant project t.files).operate (t.sessions opener) operation with
      ⟨response, session, files⟩
    have done : server.operate (t.sessions opener) operation = (response, session, files) := by
      rw [shows.operate, operated]
    have last : t.finish project request =
        { t with
          files := files
          sessions := Function.update t.sessions opener session
          table := if operation.closes then Function.update t.table number none else t.table
        }.setStage request (.answered response) := by
      have held := (advances project t request).of_found seeking found
      have here : t.advance project request = _ := (Advances.finds seeking found).eq.symm
      have same : (vacant project (t.advance project request).files).operate
          ((t.advance project request).sessions opener) operation = (response, session, files) := by
        rw [here]
        exact operated
      rw [finish, advance_holding held.1 same, advance_told (by rw [setStage_self]; rfl), here]
      simp only [setStage, Function.update_idem]
    -- The session has one number only.
    have elsewhere (other : Nat) (different : other ≠ number) : t.table other ≠ some opener := by
      intro again
      obtain ⟨_, stored⟩ := kept.table number opener found
      obtain ⟨_, stored'⟩ := kept.table other opener again
      rw [stored] at stored'
      cases stored'
      exact different rfl
    rw [last, inSession, known]
    simp only [Option.map_some, done]
    refine ⟨by rw [setStage_self]; rfl, shows.project, rfl, shows.nextNumber, fun other => ?_⟩
    change (if operation.closes then _ else _ : List (Nat × Session)).lookup other =
      ((if operation.closes then Function.update t.table number none else t.table) other).map
        (Function.update t.sessions opener session)
    split
    next =>
      rw [lookup_filter_ne, map_update_update elsewhere, Option.map_none, shows.sessions]
    next =>
      rw [lookup_setSession, ← Function.update_eq_self number t.table, map_update_update elsewhere,
        found, Option.map_some, Function.update_self, shows.sessions]

/-- Nobody works on a new session before it has been opened. -/
theorem run_sessions_of_not_mem {path : String} {schedule : List Nat} (kept : t.Kept)
    (creating : t.stages request = .creating path) (idle : request ∉ schedule) :
    (t.run project schedule).sessions request = t.sessions request := by
  induction schedule generalizing t with
  | nil => rfl
  | cons other rest ih =>
    obtain ⟨different, later⟩ := List.ne_and_not_mem_of_not_mem_cons idle
    have step := advances project t other
    have elsewhere : (t.stages other).works? other ≠ some request := by
      intro works
      rcases Stage.of_works works with ⟨itself, -⟩ | ⟨operation, holding⟩
      · exact different itself
      · obtain ⟨_, _, stored⟩ := kept.held other request operation holding
        rw [creating] at stored
        cases stored
    exact (ih (kept.step step) ((step.stages_of_ne different).trans creating) later).trans
      (step.sessions_of_ne elsewhere)

/-- A request that has not taken a step is answered as by a server that shows the same sessions. -/
theorem serve_undisturbed {files : FileTree} {inquiries : Nat → Inquiry} {schedule : List Nat}
    (idle : request ∉ schedule)
    (shows : ((arriving files inquiries).run project schedule).Shows project server) :
    let finished := ((arriving files inquiries).run project schedule).finish project request
    (finished.stages request).response? = some (server.serve (inquiries request)).1 ∧
      finished.Shows project (server.serve (inquiries request)).2 := by
  intro finished
  have kept : ((arriving files inquiries).run project schedule).Kept := kept_run ..
  have waits : ((arriving files inquiries).run project schedule).stages request =
      .ofInquiry (inquiries request) := run_stages_of_not_mem idle
  cases asked : inquiries request with
  | create path identity =>
    rw [asked] at waits
    have creating : (arriving files inquiries).stages request = .creating path :=
      congrArg Stage.ofInquiry asked
    have untouched : ((arriving files inquiries).run project schedule).sessions request =
        newSession identity := by
      rw [run_sessions_of_not_mem (kept_arriving files inquiries) creating idle]
      simp only [arriving, asked]
    exact create_undisturbed shows kept waits untouched
  | visit number operation =>
    rw [asked] at waits
    exact visit_undisturbed shows kept waits

def oneByOne (count : Nat) : List Nat :=
  (List.range count).flatMap fun request => List.replicate 3 request

/-- Requests that wait for each other are answered as by the server that handles them in this order. -/
theorem shows_oneByOne (files : FileTree) (inquiries : Nat → Inquiry) (count : Nat) :
    ((arriving files inquiries).run project (oneByOne count)).Shows project
      ((List.range count).foldl (fun server request => (server.serve (inquiries request)).2)
        (vacant project files)) := by
  induction count with
  | zero => exact ⟨rfl, rfl, rfl, fun _ => rfl⟩
  | succ count ih =>
    have idle : count ∉ oneByOne count := by
      simp [oneByOne]
    have finished := (serve_undisturbed idle ih).2
    rw [List.range_succ, List.foldl_append, oneByOne, List.range_succ, List.flatMap_append,
      run_append]
    exact finished

end Traffic

end Signpost.Server
