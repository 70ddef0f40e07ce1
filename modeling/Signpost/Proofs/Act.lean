import Signpost.Navigator.Act

/-! Acts as steps from one course to the next.

An act that is put together by `do` is taken apart by `of_bind_ok` and `of_bind_error`. An act is
still when the session never changes; most requests to the host are. Of other acts we say which
relation they keep between the session before and the session after. -/

namespace Signpost.Act

variable {World α β : Type} {act : Act World α} {next : α → Act World β}
  {course mid after : Course World} {a : α} {b : β} {halt : Halt}

theorem bind_ok (first : act course = (.ok a, mid)) : (act >>= next) course = next a mid := by
  change Act.bind act next course = _
  simp only [Act.bind, first]

theorem bind_error (first : act course = (.error halt, mid)) :
    (act >>= next) course = (.error halt, mid) := by
  change Act.bind act next course = _
  simp only [Act.bind, first]

theorem bind_pure (act : Act World α) : (act >>= pure) = act := by
  funext course
  rcases ran : act course with ⟨halt | a, mid⟩
  · rw [bind_error ran]
  · rw [bind_ok ran]
    rfl

theorem of_bind_ok (ran : (act >>= next) course = (.ok b, after)) :
    ∃ a mid, act course = (.ok a, mid) ∧ next a mid = (.ok b, after) := by
  rcases first : act course with ⟨halt | a, mid⟩
  · rw [bind_error first] at ran
    cases ran
  · rw [bind_ok first] at ran
    exact ⟨a, mid, rfl, ran⟩

theorem of_bind_error (halted : (act >>= next) course = (.error halt, after)) :
    act course = (.error halt, after) ∨
      ∃ a mid, act course = (.ok a, mid) ∧ next a mid = (.error halt, after) := by
  rcases first : act course with ⟨stopped | a, mid⟩
  · rw [bind_error first] at halted
    cases halted
    exact .inl rfl
  · rw [bind_ok first] at halted
    exact .inr ⟨a, mid, rfl, halted⟩

/-- What was changed before the halt is taken back, whatever stopped the act. -/
theorem restoring_error (halted : restoring act course = (.error halt, after)) :
    after.session = course.session := by
  unfold restoring at halted
  split at halted
  next => cases halted; rfl
  next absent => exact absurd halted (absent halt after)

theorem restoring_ok (ran : restoring act course = (.ok a, after)) :
    act course = (.ok a, after) := by
  unfold restoring at ran
  split at ran
  next => cases ran
  next => exact ran

theorem ok_restoring (ran : act course = (.ok a, after)) :
    restoring act course = (.ok a, after) := by
  unfold restoring
  rw [ran]

theorem error_restoring (halted : act course = (.error halt, mid)) :
    restoring act course = (.error halt, { mid with session := course.session }) := by
  unfold restoring
  rw [halted]

theorem of_restoring_error (halted : restoring act course = (.error halt, after)) :
    ∃ mid, act course = (.error halt, mid) ∧ after = { mid with session := course.session } := by
  rcases ran : act course with ⟨stopped | a, mid⟩
  · rw [error_restoring ran] at halted
    cases halted
    exact ⟨mid, rfl, rfl⟩
  · rw [ok_restoring ran] at halted
    cases halted

theorem restoring_congr {act' : Act World α} (same : act course = act' course) :
    restoring act course = restoring act' course := by
  unfold restoring
  rw [same]

theorem restoring_fst (act : Act World α) (course : Course World) :
    (restoring act course).1 = (act course).1 := by
  rcases ran : act course with ⟨halt | a, mid⟩
  · rw [error_restoring ran]
  · rw [ok_restoring ran]

theorem of_attempt_error (halted : attempt act course = (.error halt, after)) :
    halt = .exhausted ∧ act course = (.error .exhausted, after) := by
  unfold attempt at halted
  rcases ran : act course with ⟨(error | _) | a, mid⟩ <;> rw [ran] at halted <;> cases halted
  exact ⟨rfl, rfl⟩

theorem of_attempt_ok {result : Except DispatchError α}
    (ran : attempt act course = (.ok result, after)) :
    (∃ a, result = .ok a ∧ act course = (.ok a, after)) ∨
      ∃ error, result = .error error ∧ act course = (.error (.refused error), after) := by
  unfold attempt at ran
  rcases began : act course with ⟨(error | _) | a, mid⟩ <;> rw [began] at ran <;> cases ran
  · exact .inr ⟨error, rfl, rfl⟩
  · exact .inl ⟨a, rfl, rfl⟩

theorem session_run : Act.session course = (.ok course.session, course) := rfl

theorem run_ok (first : (act course).1 = .ok a) : act course = (.ok a, (act course).2) :=
  Prod.ext first rfl

theorem run_of_isOk (first : (act course).1.isOk = true) :
    ∃ a, act course = (.ok a, (act course).2) := by
  cases came : (act course).1 with
  | error halt =>
    rw [came] at first
    cases first
  | ok a => exact ⟨a, run_ok came⟩

theorem run_error (first : (act course).1 = .error halt) :
    act course = (.error halt, (act course).2) := Prod.ext first rfl

instance decidableError {ε : Type} [DecidableEq ε] (result : Except ε α) (error : ε) :
    Decidable (result = .error error) :=
  match result with
  | .error other =>
      if same : other = error then .isTrue (same ▸ rfl)
      else .isFalse fun equal => same (Except.error.inj equal)
  | .ok _ => .isFalse nofun

/-! ## Still acts -/

/-- The session is the same afterwards, also when the act halts. -/
def Still (act : Act World α) : Prop := ∀ course, (act course).2.session = course.session

namespace Still

theorem of_run (still : act.Still) {result : Except Halt α} (ran : act course = (result, after)) :
    after.session = course.session := by
  have same := still course
  rwa [ran] at same

theorem pure (a : α) : (pure a : Act World α).Still := fun _ => rfl

theorem refuse (error : DispatchError) : (Act.refuse error : Act World α).Still := fun _ => rfl

theorem session : (Act.session : Act World Session).Still := fun _ => rfl

theorem ask (request : StateM World α) (event : α → Event) : (Act.ask request event).Still :=
  fun _ => rfl

theorem bind (first : act.Still) (rest : ∀ a, (next a).Still) : (act >>= next).Still := by
  intro course
  rcases ran : act course with ⟨halt | a, mid⟩
  · rw [bind_error ran]
    exact first.of_run ran
  · rw [bind_ok ran]
    exact (rest a mid).trans (first.of_run ran)

theorem attempt (still : act.Still) : (Act.attempt act).Still := by
  intro course
  have same := still course
  unfold Act.attempt
  split <;> simp_all

end Still

/-! ## Acts that are undone -/

/-- An act that halts leaves no change of the session behind. -/
def Undone (act : Act World α) : Prop :=
  ∀ {course halt after}, act course = (.error halt, after) → after.session = course.session

namespace Undone

theorem of_still (still : act.Still) : act.Undone := fun halted => still.of_run halted

theorem refuse (error : DispatchError) : (Act.refuse error : Act World α).Undone :=
  of_still (Still.refuse error)

theorem afterStill (still : act.Still) (rest : ∀ a, (next a).Undone) : (act >>= next).Undone := by
  intro course halt after halted
  rcases of_bind_error halted with refused | ⟨a, mid, ran, halted⟩
  · exact still.of_run refused
  · exact (rest a halted).trans (still.of_run ran)

theorem restoring (act : Act World α) : (Act.restoring act).Undone := restoring_error

end Undone

/-! ## Acts that keep a relation -/

/-- However the act ends, the relation holds between the session before and the session after. -/
def Keeps (stay : Session → Session → Prop) (act : Act World α) : Prop :=
  ∀ course, stay course.session (act course).2.session

namespace Keeps

variable {stay : Session → Session → Prop}

theorem of_run (keeps : act.Keeps stay) {result : Except Halt α}
    (ran : act course = (result, after)) : stay course.session after.session := by
  have kept := keeps course
  rwa [ran] at kept

theorem of_still (refl : ∀ s, stay s s) (still : act.Still) : act.Keeps stay := by
  intro course
  rw [still course]
  exact refl _

theorem modifySession {change : Session → Session} (kept : ∀ s, stay s (change s)) :
    (Act.modifySession change : Act World Unit).Keeps stay := fun _ => kept _

end Keeps

/-! ## Acts that end -/

/-- The act comes to a result or is refused, whatever its bounds are. -/
def Ends (act : Act World α) : Prop := ∀ course, (act course).1 ≠ .error .exhausted

theorem ok_ne_exhausted (a : α) : (.ok a : Except Halt α) ≠ .error .exhausted := nofun

namespace Ends

theorem pure (a : α) : (pure a : Act World α).Ends := fun _ => ok_ne_exhausted a

theorem refuse (error : DispatchError) : (Act.refuse error : Act World α).Ends := fun _ => nofun

theorem bind (first : act.Ends) (rest : ∀ a, (next a).Ends) : (act >>= next).Ends := by
  intro course exhausted
  rcases of_bind_error (run_error exhausted) with halted | ⟨a, mid, -, halted⟩
  · exact first course (congrArg Prod.fst halted)
  · exact rest a mid (congrArg Prod.fst halted)

theorem attempt (ends : act.Ends) {halt : Halt} : (Act.attempt act course).1 ≠ .error halt := by
  intro halted
  obtain ⟨-, exhausted⟩ := of_attempt_error (run_error halted)
  exact ends course (congrArg Prod.fst exhausted)

end Ends

/-! ## What acts come to -/

def Yields (kind : α → Prop) (act : Act World α) : Prop :=
  ∀ course a, (act course).1 = .ok a → kind a

namespace Yields

variable {kind : α → Prop} {other : β → Prop}

theorem of_run (yields : act.Yields kind) (ran : act course = (.ok a, after)) : kind a :=
  yields course a (congrArg Prod.fst ran)

theorem pure (here : kind a) : (pure a : Act World α).Yields kind := by
  intro course b ran
  cases ran
  exact here

theorem of_halt (halts : ∀ course, ∃ halt, (act course).1 = .error halt) : act.Yields kind := by
  intro course a ran
  obtain ⟨halt, halted⟩ := halts course
  rw [halted] at ran
  cases ran

theorem bind (first : act.Yields kind) (rest : ∀ a, kind a → (next a).Yields other) :
    (act >>= next).Yields other := by
  intro course b ran
  obtain ⟨a, mid, began, ran⟩ := of_bind_ok (run_ok ran)
  exact (rest a (first.of_run began)).of_run ran

theorem last (rest : ∀ a, (next a).Yields other) : (act >>= next).Yields other :=
  bind (fun _ _ _ => trivial : act.Yields fun _ => True) fun a _ => rest a

end Yields

end Signpost.Act
