import Signpost.Server.Traffic

/-! What the steps of concurrent requests leave alone.

A step changes the stage of its own request only. Sessions and files change only while a session is worked
on, and a session is found only after its opener has stored it. The journal of a run tells which request
has taken each step, and what it has met. -/

namespace Signpost.Server

namespace Stage

variable {stage : Stage} {request opener : Nat} {server : Server} {session : Session}

theorem ofInquiry_ne_holding {operation : Operation} (inquiry : Inquiry) :
    ofInquiry inquiry ≠ .holding opener operation := by
  cases inquiry <;> nofun

theorem of_works (works : stage.works? request = some opener) :
    (opener = request ∧ ∃ path, stage = .creating path) ∨
      ∃ operation, stage = .holding opener operation := by
  cases stage with
  | creating path =>
    cases works
    exact .inl ⟨rfl, path, rfl⟩
  | holding _ operation =>
    cases works
    exact .inr ⟨operation, rfl⟩
  | _ => cases works

variable (server session) in
/-- To open a document decides what a new session comes to. -/
theorem work_creating (path : String) :
    ((creating path).work server session).1.opened? = some (server.enter session path).1 ∧
      ((creating path).work server session).2 = (server.enter session path).2 := by
  simp only [work]
  rcases server.enter session path with ⟨_ | _, _⟩ <;> exact ⟨rfl, rfl⟩

theorem work_number? (works : stage.works? request = some opener) :
    stage.number? = none ∧ (stage.work server session).1.number? = none := by
  rcases of_works works with ⟨-, path, rfl⟩ | ⟨operation, rfl⟩
  · refine ⟨rfl, ?_⟩
    simp only [work]
    rcases server.enter session path with ⟨_ | _, _⟩ <;> rfl
  · exact ⟨rfl, rfl⟩

theorem work_ne_holding {operation : Operation} {holder : Nat}
    (works : stage.works? request = some opener) :
    (stage.work server session).1 ≠ .holding holder operation := by
  rcases of_works works with ⟨-, path, rfl⟩ | ⟨operation, rfl⟩
  · simp only [work]
    rcases server.enter session path with ⟨_ | _, _⟩ <;> nofun
  · nofun

end Stage

namespace Traffic

variable {project : Project} {t after : Traffic} {request other opener number : Nat}

@[simp] theorem setStage_self (stage : Stage) : (t.setStage request stage).stages request = stage :=
  Function.update_self ..

theorem setStage_of_ne (stage : Stage) (different : other ≠ request) :
    (t.setStage request stage).stages other = t.stages other :=
  Function.update_of_ne different ..

/-! ## One step -/

variable (project) in
inductive Advances (t : Traffic) (request : Nat) : Traffic → Prop where
  | works {opener : Nat} : (t.stages request).works? request = some opener →
      Advances t request (t.work project request opener)
  | draws {location : Location} : t.stages request = .started location →
      Advances t request ({ t with nextNumber := numberAfter t.nextNumber }.setStage request
        (.numbered location t.nextNumber))
  | stores {location : Location} {number : Nat} : t.stages request = .numbered location number →
      Advances t request ({ t with table := Function.update t.table number (some request) }.setStage
        request (.stored location number))
  | misses {number : Nat} {operation : Operation} :
      t.stages request = .seeking number operation → t.table number = none →
        Advances t request (t.setStage request (.answered (unknownSession number)))
  | finds {number opener : Nat} {operation : Operation} :
      t.stages request = .seeking number operation → t.table number = some opener →
        Advances t request ({ t with
          table := if operation.closes then Function.update t.table number none else t.table
        }.setStage request (.holding opener operation))
  | rests {response : Response} : (t.stages request).response? = some response → Advances t request t

variable (project t request) in
theorem advances : t.Advances project request (t.advance project request) := by
  unfold advance
  split
  next stage => exact .works (by rw [stage]; rfl)
  next stage => exact .draws stage
  next stage => exact .stores stage
  next stage =>
    split
    next missing => exact .misses stage missing
    next found => exact .finds stage found
  next stage => exact .works (by rw [stage]; rfl)
  next stage => exact .rests (by rw [stage]; rfl)
  next stage => exact .rests (by rw [stage]; rfl)

namespace Advances

variable (step : t.Advances project request after)

include step

theorem stages_of_ne (different : other ≠ request) : after.stages other = t.stages other := by
  cases step with
  | rests => rfl
  | works | draws | stores | misses | finds => exact setStage_of_ne _ different

theorem sessions_of_ne (different : (t.stages request).works? request ≠ some opener) :
    after.sessions opener = t.sessions opener := by
  cases step with
  | works works =>
    refine Function.update_of_ne (fun same => different ?_) ..
    rw [works, same]
  | _ => rfl

theorem files_of_none (idle : (t.stages request).works? request = none) : after.files = t.files := by
  cases step with
  | works works => rw [works] at idle; cases idle
  | _ => rfl

theorem eq : after = t.advance project request := by
  unfold advance
  cases step with
  | works works =>
    rcases Stage.of_works works with ⟨rfl, path, stage⟩ | ⟨operation, stage⟩ <;> rw [stage]
  | draws stage | stores stage => rw [stage]
  | misses stage missing => simp only [stage, missing]
  | finds stage found => simp only [stage, found]
  | rests told =>
    cases stage : t.stages request with
    | stored | answered => rfl
    | _ => rw [stage] at told; cases told

theorem of_works (works : (t.stages request).works? request = some opener) :
    after = t.work project request opener := by
  rw [step.eq, ← (Advances.works works).eq]

theorem of_effect (works : (t.stages request).works? request = some opener) :
    after.stages request = (t.effect project request opener).1 ∧
      after.sessions opener = (t.effect project request opener).2.1 ∧
      after.files = (t.effect project request opener).2.2 := by
  rw [step.of_works works]
  exact ⟨setStage_self _, Function.update_self .., rfl⟩

theorem of_holding {operation : Operation} (held : t.stages request = .holding opener operation) :
    after.stages request =
        .answered ((vacant project t.files).operate (t.sessions opener) operation).1 ∧
      after.sessions opener = ((vacant project t.files).operate (t.sessions opener) operation).2.1 ∧
      after.files = ((vacant project t.files).operate (t.sessions opener) operation).2.2 := by
  have effect : t.effect project request opener =
      (.answered ((vacant project t.files).operate (t.sessions opener) operation).1,
        ((vacant project t.files).operate (t.sessions opener) operation).2) := by
    rw [Traffic.effect, held]
    rfl
  have left := step.of_effect (by rw [held]; rfl : (t.stages request).works? request = some opener)
  rwa [effect] at left

theorem of_creating {path : String} (creating : t.stages request = .creating path) :
    let entered := (vacant project t.files).enter (t.sessions request) path
    (after.stages request).opened? = some entered.1 ∧ after.sessions request = entered.2.1 ∧
      after.files = entered.2.2 := by
  obtain ⟨stage, session, files⟩ :=
    step.of_effect (by rw [creating]; rfl : (t.stages request).works? request = some request)
  rw [Traffic.effect, creating] at stage session files
  obtain ⟨opened, left⟩ := Stage.work_creating (vacant project t.files) (t.sessions request) path
  rw [← stage] at opened
  exact ⟨opened, session.trans (congrArg Prod.fst left), files.trans (congrArg Prod.snd left)⟩

theorem of_started {location : Location} (started : t.stages request = .started location) :
    after = { t with nextNumber := numberAfter t.nextNumber }.setStage request
      (.numbered location t.nextNumber) := by
  rw [step.eq, ← (Advances.draws started).eq]

theorem of_found {operation : Operation} (seeking : t.stages request = .seeking number operation)
    (found : t.table number = some opener) : after.stages request = .holding opener operation ∧
      after.table = if operation.closes then Function.update t.table number none else t.table := by
  rw [step.eq, ← (Advances.finds seeking found).eq]
  exact ⟨setStage_self _, rfl⟩

theorem response?_stays {response : Response} (told : (t.stages other).response? = some response) :
    after.stages other = t.stages other := by
  by_cases same : other = request
  · subst same
    cases step with
    | works works =>
      rcases Stage.of_works works with ⟨-, path, stage⟩ | ⟨operation, stage⟩ <;>
        rw [stage] at told <;> cases told
    | draws stage | stores stage | misses stage | finds stage => rw [stage] at told; cases told
    | rests => rfl
  · exact step.stages_of_ne same

theorem opened?_stays {result : Except Response Location}
    (opened : (t.stages other).opened? = some result) :
    (after.stages other).opened? = some result := by
  by_cases same : other = request
  · subst same
    cases step with
    | works works =>
      rcases Stage.of_works works with ⟨-, path, stage⟩ | ⟨operation, stage⟩ <;>
        rw [stage] at opened <;> cases opened
    | draws stage | stores stage =>
      rw [stage] at opened
      rw [setStage_self]
      exact opened
    | misses stage | finds stage =>
      rw [stage] at opened
      cases opened
    | rests => exact opened
  · rw [step.stages_of_ne same]
    exact opened

end Advances

/-! ## Runs -/

variable (project) in
/-- Each step of a run: the request that takes it, and what it meets. -/
def journal : Traffic → List Nat → List (Nat × Traffic)
  | _, [] => []
  | t, request :: rest => (request, t) :: journal (t.advance project request) rest

theorem run_induction {motive : List (Nat × Traffic) → Traffic → Prop} (first : motive [] t)
    (next : ∀ entries t request after, t.Advances project request after → motive entries t →
      motive (entries ++ [(request, t)]) after) (schedule : List Nat) :
    motive (t.journal project schedule) (t.run project schedule) := by
  suffices later : ∀ entries, motive entries t →
      motive (entries ++ t.journal project schedule) (t.run project schedule) from later [] first
  clear first
  intro entries here
  induction schedule generalizing t entries with
  | nil =>
    rw [journal, List.append_nil]
    exact here
  | cons request rest ih =>
    have later := ih _ (next entries t request _ (advances project t request) here)
    rwa [List.append_assoc] at later

/-- A request that has not taken a step is where it was. -/
theorem run_stages_of_not_mem {schedule : List Nat} (idle : other ∉ schedule) :
    (t.run project schedule).stages other = t.stages other := by
  induction schedule generalizing t with
  | nil => rfl
  | cons request rest ih =>
    obtain ⟨different, later⟩ := List.ne_and_not_mem_of_not_mem_cons idle
    exact (ih later).trans ((advances project t request).stages_of_ne different)

theorem filterMap_concat {α : Type} (pick : Nat × Traffic → Option α)
    (entries : List (Nat × Traffic)) (entry : Nat × Traffic) :
    (entries ++ [entry]).filterMap pick = entries.filterMap pick ++ (pick entry).toList := by
  rw [List.filterMap_append, List.filterMap_cons]
  cases pick entry <;> rfl

end Traffic

end Signpost.Server
