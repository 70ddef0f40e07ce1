import Signpost.Navigator.Walk
import Signpost.Proofs.Navigator.OneMove

/-! More patience changes nothing.

Patience bounds how deep dispatches nest, how many rounds a loop takes and how many blocks a walk
enters. An act that ends within these bounds has not met them, so it ends in the same way within wider
ones. -/

namespace Signpost

instance : LE Patience where
  le p q := p.depth ≤ q.depth ∧ p.rounds ≤ q.rounds ∧ p.visits ≤ q.visits

namespace Patience

theorem le_trans {p q r : Patience} (first : p ≤ q) (second : q ≤ r) : p ≤ r :=
  ⟨Nat.le_trans first.1 second.1, Nat.le_trans first.2.1 second.2.1,
    Nat.le_trans first.2.2 second.2.2⟩

theorem le_refl (p : Patience) : p ≤ p := ⟨Nat.le_refl _, Nat.le_refl _, Nat.le_refl _⟩

def join (p q : Patience) : Patience :=
  ⟨max p.depth q.depth, max p.rounds q.rounds, max p.visits q.visits⟩

theorem le_join_left (p q : Patience) : p ≤ p.join q :=
  ⟨Nat.le_max_left .., Nat.le_max_left .., Nat.le_max_left ..⟩

theorem le_join_right (p q : Patience) : q ≤ p.join q :=
  ⟨Nat.le_max_right .., Nat.le_max_right .., Nat.le_max_right ..⟩

end Patience

def Navigator.within {World : Type} (n : Navigator World) (patience : Patience) : Navigator World :=
  { n with patience := patience }

namespace Act

variable {World α β : Type}

/-- Where the first act ends, the second one comes to the same. -/
def Approximates (act other : Act World α) : Prop :=
  ∀ course, (act course).1 ≠ .error .exhausted → other course = act course

namespace Approximates

variable {act other : Act World α} {next next' : α → Act World β}

theorem refl (act : Act World α) : act.Approximates act := fun _ _ => rfl

theorem exhaust (act : Act World α) : Act.exhaust.Approximates act :=
  fun _ ends => absurd rfl ends

theorem bind (first : act.Approximates other) (rest : ∀ a, (next a).Approximates (next' a)) :
    (act >>= next).Approximates (other >>= next') := by
  intro course ends
  rcases ran : act course with ⟨halt | a, mid⟩
  · rw [bind_error ran] at ends ⊢
    have same := first course fun exhausted => ends <| by
      rw [ran] at exhausted
      cases exhausted
      rfl
    exact bind_error (same.trans ran)
  · rw [bind_ok ran] at ends ⊢
    have same := first course (by rw [ran]; nofun)
    rw [bind_ok (same.trans ran)]
    exact rest a mid ends

theorem andThen (rest : ∀ a, (next a).Approximates (next' a)) :
    (act >>= next).Approximates (act >>= next') := bind (refl act) rest

theorem attempt (first : act.Approximates other) :
    (Act.attempt act).Approximates (Act.attempt other) := by
  intro course ends
  have same : other course = act course := by
    refine first course fun exhausted => ends ?_
    unfold Act.attempt
    rw [run_error exhausted]
  unfold Act.attempt
  rw [same]

theorem restoring (first : act.Approximates other) :
    (Act.restoring act).Approximates (Act.restoring other) := by
  intro course ends
  rw [restoring_fst] at ends
  exact (restoring_congr (first course ends).symm).symm

theorem keepingPending {act other : Act World Outcome} (first : act.Approximates other)
    (pending : Pending) : (Navigator.keepingPending pending act).Approximates
      (Navigator.keepingPending pending other) := by
  intro course ends
  have same : other course = act course := by
    refine first course fun exhausted => ends ?_
    unfold Navigator.keepingPending
    rw [run_error exhausted]
  unfold Navigator.keepingPending
  rw [same]

end Approximates

end Act

namespace Navigator

open Act

variable {World : Type} (n : Navigator World) {patience : Patience}

/-! ## Launching -/

section Nested

variable {nested nested' : String → Value → Act World Outcome}

theorem collectAll_approximates {α : Type} {launch launch' : α → Act World Outcome}
    (part : ∀ a, (launch a).Approximates (launch' a)) (parts : List α) (values : List Value) :
    (collectAll launch values parts).Approximates (collectAll launch' values parts) := by
  induction parts generalizing values with
  | nil => exact .refl _
  | cons a parts ih =>
    refine .bind (part a) fun outcome => ?_
    split
    · exact .refl _
    · exact ih (collect values outcome)

variable (inner : ∀ key value, (nested key value).Approximates (nested' key value))

include inner

theorem launchItem_approximates (item : Menu.Item) : (n.launchItem nested item).Approximates
    ((n.within patience).launchItem nested' item) := by
  unfold launchItem
  split
  next => exact .refl _
  next =>
    refine .andThen fun session => ?_
    split
    next => exact .refl _
    next location _ =>
      refine .andThen fun document => ?_
      split
      next written command _ => exact inner written command
      next => exact .refl _

theorem select_approximates (selection : Menu.Selection) : (n.select nested selection).Approximates
    ((n.within patience).select nested' selection) := by
  have launched (item : Menu.Item) : (n.launchItem nested item).Approximates
      ((n.within patience).launchItem nested' item) := n.launchItem_approximates inner item
  cases selection with
  | single item => exact launched item
  | multi items => exact collectAll_approximates launched items []
  | narrowed => exact .refl _

omit inner in
theorem interact_approximates {select select' : Menu.Selection → Act World Outcome}
    (selected : ∀ selection, (select selection).Approximates (select' selection))
    {rounds rounds' : Nat} (more : rounds ≤ rounds') (view : Menu.View) :
    (n.interact select rounds view).Approximates
      ((n.within patience).interact select' rounds' view) := by
  induction rounds generalizing rounds' view with
  | zero => exact .exhaust _
  | succ rounds ih =>
    obtain ⟨rounds', rfl⟩ := Nat.exists_eq_add_one.mpr (Nat.zero_lt_of_lt more)
    have fewer : rounds ≤ rounds' := Nat.le_of_succ_le_succ more
    refine .andThen fun _ => .andThen fun answer => ?_
    cases answer with
    | none => exact .refl _
    | some line =>
      dsimp only
      split
      next model _ => exact ih fewer { view with model := model }
      next selection _ _ => exact selected selection
      next => exact .andThen fun _ => ih fewer view

omit inner in
theorem openMenu_approximates {select select' : Menu.Selection → Act World Outcome}
    (selected : ∀ selection, (select selection).Approximates (select' selection))
    (longer : n.patience ≤ patience) (key : String) (followUp : FollowUp) (spec : MenuSpec) :
    (n.openMenu select key followUp spec).Approximates
      ((n.within patience).openMenu select' key followUp spec) := by
  unfold openMenu
  refine .andThen fun source => ?_
  split
  next => exact .refl _
  next model _ =>
    refine .andThen fun session => .andThen fun blocking => ?_
    cases blocking with
    | false => exact .refl _
    | true => exact n.interact_approximates selected longer.2.1 _

theorem launchAction_approximates (longer : n.patience ≤ patience) (key : String)
    (followUp : FollowUp) (command : Command) :
    (n.launchAction nested key followUp command).Approximates
      ((n.within patience).launchAction nested' key followUp command) := by
  unfold launchAction
  split
  next spec =>
    exact n.openMenu_approximates (n.select_approximates inner) longer key followUp spec
  next => exact .refl _

omit inner

mutual

theorem launchElement_approximates
    (inner : ∀ key value, (nested key value).Approximates (nested' key value))
    (longer : n.patience ≤ patience) (key : String) (index : Nat) (value : Value) :
    (n.launchElement nested key index value).Approximates
      ((n.within patience).launchElement nested' key index value) := by
  unfold launchElement
  split
  next items => exact launchElements_approximates inner longer key 0 [] items
  next value _ =>
    split
    next => exact .refl _
    next command _ =>
      exact .andThen fun session => n.launchAction_approximates inner longer key _ command

theorem launchElements_approximates
    (inner : ∀ key value, (nested key value).Approximates (nested' key value))
    (longer : n.patience ≤ patience) (key : String) (index : Nat) (values elements : List Value) :
    (n.launchElements nested key index values elements).Approximates
      ((n.within patience).launchElements nested' key index values elements) := by
  cases elements with
  | nil => exact .refl _
  | cons element elements =>
    unfold launchElements
    refine .bind (launchElement_approximates inner longer key index element) fun outcome => ?_
    split
    · exact .refl _
    · exact launchElements_approximates inner longer key (index + 1) _ elements

end

include inner

theorem launchWith_approximates (longer : n.patience ≤ patience) (key : String)
    (followUp : FollowUp) (command : Command) :
    (n.launchWith nested key followUp command).Approximates
      ((n.within patience).launchWith nested' key followUp command) := by
  unfold launchWith
  split
  next items => exact n.launchElements_approximates inner longer key 0 [] items
  next => exact n.launchAction_approximates inner longer key followUp _

/-! ## Dispatching -/

omit inner in
theorem launchRequired_approximates {launch launch' : Act World Outcome}
    (launched : launch.Approximates launch') (key : String) (command : Command)
    (followUp : FollowUp) {rounds rounds' : Nat} (more : rounds ≤ rounds') (attempts : Nat) :
    (n.launchRequired launch key command followUp rounds attempts).Approximates
      ((n.within patience).launchRequired launch' key command followUp rounds' attempts) := by
  induction rounds generalizing rounds' attempts with
  | zero => exact .exhaust _
  | succ rounds ih =>
    obtain ⟨rounds', rfl⟩ := Nat.exists_eq_add_one.mpr (Nat.zero_lt_of_lt more)
    refine .bind launched fun outcome => ?_
    cases outcome with
    | failed failure =>
      dsimp only
      change Approximates _ (if n.isGivenUp (attempts + 1) then _ else _)
      split
      next => exact .refl _
      next =>
        split
        next => exact .refl _
        next => exact .andThen fun _ => ih (Nat.le_of_succ_le_succ more) (attempts + 1)
    | _ => exact .refl _

theorem launchKey_approximates (longer : n.patience ≤ patience) (key : String)
    (followUp : FollowUp) (command : Command) :
    (n.launchKey nested key followUp command).Approximates
      ((n.within patience).launchKey nested' key followUp command) := by
  have launched := n.launchWith_approximates inner longer key followUp command
  rw [launchKey_eq, launchKey_eq]
  refine .andThen fun _ => .andThen fun _ => .bind ?_ fun _ => .refl _
  split
  · exact n.launchRequired_approximates launched key command followUp longer.2.1 0
  · exact launched

theorem dispatchWith_approximates (longer : n.patience ≤ patience) (key : String) (value : Value) :
    (n.dispatchWith nested key value).Approximates
      ((n.within patience).dispatchWith nested' key value) := by
  refine .andThen fun session => ?_
  split
  split
  next => exact .refl _
  next => exact .restoring (n.launchKey_approximates inner longer _ _ _)

end Nested

variable (longer : n.patience ≤ patience)

include longer

theorem dispatchWithin_approximates {depth depth' : Nat} (deeper : depth ≤ depth') (key : String)
    (value : Value) : (n.dispatchWithin depth key value).Approximates
      ((n.within patience).dispatchWithin depth' key value) := by
  induction depth generalizing depth' key value with
  | zero => exact .exhaust _
  | succ depth ih =>
    obtain ⟨depth', rfl⟩ := Nat.exists_eq_add_one.mpr (Nat.zero_lt_of_lt deeper)
    exact n.dispatchWith_approximates (ih (Nat.le_of_succ_le_succ deeper)) longer key value

theorem dispatch_approximates (key : String) (value : Value) :
    (n.dispatch key value).Approximates ((n.within patience).dispatch key value) :=
  n.dispatchWithin_approximates longer longer.1 key value

theorem dispatchKey_approximates (key : String) :
    (n.dispatchKey key).Approximates ((n.within patience).dispatchKey key) := by
  refine .andThen fun found => ?_
  dsimp only
  split
  next => exact .refl _
  next written command _ => exact n.dispatch_approximates longer written command

theorem launch_approximates (command : Command) :
    (n.launch command).Approximates ((n.within patience).launch command) :=
  .andThen fun _ => n.launchWith_approximates (n.dispatch_approximates longer) longer "" _ command

/-! ## Answering -/

theorem retry_approximates (pending : PendingRetry) :
    (n.retry pending).Approximates ((n.within patience).retry pending) := by
  have launched := n.launchWith_approximates (n.dispatch_approximates longer) longer pending.key
    pending.followUp pending.command
  exact .bind (.keepingPending (.restoring launched) _) fun _ => .refl _

theorem answer_approximates (pending : PendingMenu) (line : String) :
    (n.answer pending line).Approximates ((n.within patience).answer pending line) := by
  unfold answer
  split
  next => exact .refl _
  next => exact .refl _
  next selection _ _ =>
    have selected : (n.select n.dispatch selection).Approximates
        ((n.within patience).select (n.within patience).dispatch selection) :=
      n.select_approximates (n.dispatch_approximates longer) selection
    exact .bind (.keepingPending selected _) fun _ => .refl _

theorem resume_approximates (line : String) :
    (n.resume line).Approximates ((n.within patience).resume line) := by
  refine .andThen fun session => .andThen fun _ => ?_
  split
  next => exact .refl _
  next pending _ => exact n.retry_approximates longer pending
  next pending _ => exact n.answer_approximates longer pending line

theorem perform_approximates (call : Call) :
    (n.perform call).Approximates ((n.within patience).perform call) := by
  cases call with
  | start | goBack => exact .refl _
  | dispatch key value => exact n.dispatch_approximates longer key value
  | dispatchKey key => exact n.dispatchKey_approximates longer key
  | launch command => exact n.launch_approximates longer command
  | resume line => exact n.resume_approximates longer line

/-! ## Walking -/

theorem walkBlock_approximates (limit : Nat) (location : Location) (steps : Nat)
    (entries : Block) : (n.walkBlock limit location steps entries).Approximates
      ((n.within patience).walkBlock limit location steps entries) := by
  induction entries generalizing steps with
  | nil => exact .refl _
  | cons entry rest ih =>
    obtain ⟨key, command⟩ := entry
    unfold walkBlock
    split
    · exact .refl _
    · have dispatched := n.dispatch_approximates longer key command
      refine .bind (.attempt dispatched) fun result => .andThen fun _ => ?_
      cases result with
      | error error =>
        dsimp only
        split
        · exact .andThen fun _ => ih _
        · exact .refl _
      | ok outcome =>
        cases outcome with
        | empty | pending => exact ih _
        | done | failed => exact .andThen fun _ => ih _
        | relocated | back | abort => exact .refl _

theorem walkFrom_approximates {visits visits' : Nat} (more : visits ≤ visits')
    (limit steps : Nat) : (n.walkFrom limit visits steps).Approximates
      ((n.within patience).walkFrom limit visits' steps) := by
  induction visits generalizing visits' steps with
  | zero => exact .exhaust _
  | succ visits ih =>
    obtain ⟨visits', rfl⟩ := Nat.exists_eq_add_one.mpr (Nat.zero_lt_of_lt more)
    have fewer := Nat.le_of_succ_le_succ more
    refine .andThen fun session => ?_
    split
    next => exact .refl _
    next location _ =>
      refine .andThen fun found => ?_
      cases found with
      | error => exact .refl _
      | ok entries =>
        refine .bind (n.walkBlock_approximates longer limit location steps entries) fun turn => ?_
        cases turn with
        | enter steps => exact ih fewer steps
        | leave steps =>
          refine .andThen fun outcome => ?_
          split
          · exact ih fewer steps
          · exact .refl _
        | stop | failed => exact .refl _

theorem walk_approximates (path : Option String) (limit : Nat) :
    (n.walk path limit).Approximates ((n.within patience).walk path limit) := by
  have walked := n.walkFrom_approximates longer longer.2.2 limit 0
  cases path with
  | none => exact walked
  | some path =>
    refine .andThen fun started => ?_
    cases started with
    | error => exact .refl _
    | ok => exact walked

end Navigator

end Signpost
