import Signpost.Proofs.Server.Turns

/-! Sessions that do not notice each other.

If others do not change what the collaborators answer for a session, then it goes through what it would go
through by itself: it is opened, and its operations follow in the order in which they have had their
turns. -/

namespace Signpost.Server.Traffic

variable {project : Project} {t after : Traffic} {request opener : Nat} {operation : Operation}

variable (project) in
/-- The answers to operations that follow each other, and where they leave the session and the files. -/
def alone (files : FileTree) (session : Session) (operations : List Operation) :
    List Response × Session × FileTree :=
  operations.foldl (fun (responses, session, files) operation =>
    let (response, session, files) := (vacant project files).operate session operation
    (responses ++ [response], session, files)) ([], session, files)

theorem alone_concat {files last : FileTree} {session left : Session} {operations : List Operation}
    {responses : List Response} (operation : Operation)
    (before : alone project files session operations = (responses, left, last)) :
    alone project files session (operations ++ [operation]) =
      (responses ++ [((vacant project last).operate left operation).1],
        ((vacant project last).operate left operation).2) := by
  unfold alone at before ⊢
  rw [List.foldl_append, before]
  rfl

/-- Two ways to do something in a session come to the same and leave the files alike. -/
def Agree {α : Type} (alike : FileTree → FileTree → Prop) (done other : α × Session × FileTree) : Prop :=
  done.1 = other.1 ∧ done.2.1 = other.2.1 ∧ alike done.2.2 other.2.2

variable (project) in
/-- Files that are alike for a session make no difference to what is done in it, and to work on other
sessions leaves the files alike. -/
structure Apart (alike : Nat → FileTree → FileTree → Prop) (entries : List (Nat × Traffic)) : Prop where
  equivalence : ∀ opener, Equivalence (alike opener)
  opens : ∀ opener t path files, (opener, t) ∈ entries → t.stages opener = .creating path →
    alike opener t.files files → Agree (alike opener)
      ((vacant project t.files).enter (t.sessions opener) path)
      ((vacant project files).enter (t.sessions opener) path)
  operates : ∀ request t opener operation files, (request, t) ∈ entries →
    t.stages request = .holding opener operation →
      alike opener t.files files → Agree (alike opener)
        ((vacant project t.files).operate (t.sessions opener) operation)
        ((vacant project files).operate (t.sessions opener) operation)
  spares : ∀ request t opener other, (request, t) ∈ entries →
    (t.stages request).works? request = some other → other ≠ opener →
      alike opener t.files (t.effect project request other).2.2

variable {alike : Nat → FileTree → FileTree → Prop} {entries : List (Nat × Traffic)}

theorem Apart.before {entry : Nat × Traffic} (apart : Apart project alike (entries ++ [entry])) :
    Apart project alike entries where
  equivalence := apart.equivalence
  opens opener t path files member := apart.opens opener t path files (List.mem_append_left _ member)
  operates request t opener operation files member :=
    apart.operates request t opener operation files (List.mem_append_left _ member)
  spares request t opener other member :=
    apart.spares request t opener other (List.mem_append_left _ member)

/-- The session of this opener is where its opening and its turns would have left it without the
others. -/
inductive Secluded (project : Project) (alike : Nat → FileTree → FileTree → Prop) (files : FileTree)
    (opener : Nat) (path : String) (identity : Identity) (entries : List (Nat × Traffic))
    (t : Traffic) : Prop where
  | waiting : t.stages opener = .creating path → t.sessions opener = newSession identity →
      turns opener entries = [] → alike opener t.files files →
        Secluded project alike files opener path identity entries t
  | opened {result : Except Response Location} {session : Session} {began last : FileTree}
      {responses : List Response} : (t.stages opener).opened? = some result →
      (vacant project files).enter (newSession identity) path = (result, session, began) →
        alone project began session ((turns opener entries).map Prod.snd) =
          (responses, t.sessions opener, last) →
          (turns opener entries).map (fun turn => t.stages turn.1) = responses.map .answered →
            alike opener t.files last →
              Secluded project alike files opener path identity entries t

namespace Secluded

variable {files : FileTree} {path : String} {identity : Identity}
  (secluded : Secluded project alike files opener path identity entries t)
  (step : t.Advances project request after)

include secluded step

/-- Whatever is not done in the session leaves it alone. -/
theorem aside (queued : Queued opener entries t)
    (elsewhere : (t.stages request).works? request ≠ some opener)
    (spared : ∀ last, alike opener t.files last → alike opener after.files last) :
    Secluded project alike files opener path identity (entries ++ [(request, t)]) after := by
  have session := step.sessions_of_ne elsewhere
  have nobody : turn? opener (request, t) = none := by
    refine Option.eq_none_iff_forall_ne_some.mpr fun entry turned => elsewhere ?_
    rw [(turn?_eq_some_iff.mp turned).2]
    rfl
  have turns : turns opener (entries ++ [(request, t)]) = turns opener entries := by
    rw [turns_concat, nobody, Option.toList_none, List.append_nil]
  cases secluded with
  | waiting creating new unturned untouched =>
    have different : opener ≠ request := by
      rintro rfl
      exact elsewhere (by rw [creating]; rfl)
    exact .waiting ((step.stages_of_ne different).trans creating) (session.trans new)
      (turns.trans unturned) (spared _ untouched)
  | opened result entered operated answers untouched =>
    rw [← turns, ← session] at operated
    rw [← queued.answers_stay step, ← turns] at answers
    exact .opened (step.opened?_stays result) entered operated answers (spared _ untouched)

theorem opening {written : String} (creating : t.stages opener = .creating written)
    (itself : opener = request) (agrees : ∀ last, alike opener t.files last → Agree (alike opener)
      ((vacant project t.files).enter (t.sessions opener) written)
      ((vacant project last).enter (t.sessions opener) written)) :
    Secluded project alike files opener path identity (entries ++ [(request, t)]) after := by
  subst itself
  obtain ⟨opened, session, left⟩ := step.of_creating creating
  cases secluded with
  | waiting arrived new unturned untouched =>
    rw [arrived] at creating
    cases creating
    obtain ⟨same, same_session, same_files⟩ := agrees files untouched
    rw [new] at opened session left same same_session same_files
    have nobody : turn? opener (opener, t) = none := by simp only [turn?, arrived]
    have turns : turns opener (entries ++ [(opener, t)]) = [] := by
      rw [turns_concat, nobody, unturned]
      rfl
    have operated : alone project ((vacant project files).enter (newSession identity) path).2.2
        ((vacant project files).enter (newSession identity) path).2.1
          ((Traffic.turns opener (entries ++ [(opener, t)])).map Prod.snd) =
        ([], after.sessions opener, ((vacant project files).enter (newSession identity) path).2.2) := by
      rw [turns, session, same_session]
      rfl
    have answers : (Traffic.turns opener (entries ++ [(opener, t)])).map
        (fun turn => after.stages turn.1) = [].map Stage.answered := by
      rw [turns]
      rfl
    rw [same] at opened
    rw [← left] at same_files
    exact .opened opened rfl operated answers same_files
  | opened result =>
    rw [creating] at result
    cases result

theorem turning (queued : Queued opener entries t) (kept : t.Kept)
    (holding : t.stages request = .holding opener operation)
    (agrees : ∀ last, alike opener t.files last → Agree (alike opener)
      ((vacant project t.files).operate (t.sessions opener) operation)
      ((vacant project last).operate (t.sessions opener) operation)) :
    Secluded project alike files opener path identity (entries ++ [(request, t)]) after := by
  obtain ⟨stage, session, left⟩ := step.of_holding holding
  obtain ⟨_, _, stored⟩ := kept.held _ _ _ holding
  cases secluded with
  | waiting arrived =>
    rw [stored] at arrived
    cases arrived
  | @opened _ own began last responses result entered operated answers untouched =>
    obtain ⟨same, same_session, same_files⟩ := agrees last untouched
    have turned : turn? opener (request, t) = some (request, operation) :=
      turn?_eq_some_iff.mpr ⟨rfl, holding⟩
    have turns : turns opener (entries ++ [(request, t)]) =
        turns opener entries ++ [(request, operation)] := by
      rw [turns_concat, turned]
      rfl
    have operated : alone project began own
        ((Traffic.turns opener (entries ++ [(request, t)])).map Prod.snd) =
        (responses ++ [((vacant project last).operate (t.sessions opener) operation).1],
          after.sessions opener, ((vacant project last).operate (t.sessions opener) operation).2.2) := by
      rw [turns, List.map_append, session, same_session]
      exact alone_concat operation operated
    have answers : (Traffic.turns opener (entries ++ [(request, t)])).map
        (fun turn => after.stages turn.1) = (responses ++
          [((vacant project last).operate (t.sessions opener) operation).1]).map Stage.answered := by
      rw [turns, List.map_append, List.map_append, queued.answers_stay step, answers, ← same]
      exact congrArg (_ ++ [·]) stage
    rw [← left] at same_files
    exact .opened (step.opened?_stays result) entered operated answers same_files

theorem next (queued : Queued opener entries t) (kept : t.Kept)
    (apart : Apart project alike (entries ++ [(request, t)])) :
    Secluded project alike files opener path identity (entries ++ [(request, t)]) after := by
  have now : (request, t) ∈ entries ++ [(request, t)] := List.mem_append_right _ List.mem_cons_self
  obtain ⟨refl, symm, trans⟩ := apart.equivalence opener
  by_cases own : (t.stages request).works? request = some opener
  · rcases Stage.of_works own with ⟨itself, written, creating⟩ | ⟨operation, holding⟩
    · subst itself
      exact secluded.opening step creating rfl fun last untouched =>
        apart.opens _ _ _ _ now creating untouched
    · exact secluded.turning step queued kept holding fun last untouched =>
        apart.operates _ _ _ _ _ now holding untouched
  · refine secluded.aside step queued own fun last untouched => trans ?_ untouched
    cases works : (t.stages request).works? request with
    | none =>
      rw [step.files_of_none works]
      exact refl _
    | some other =>
      have different : other ≠ opener := fun same => own (works.trans (congrArg some same))
      rw [(step.of_effect works).2.2]
      exact symm (apart.spares _ _ _ _ now works different)

end Secluded

end Signpost.Server.Traffic
