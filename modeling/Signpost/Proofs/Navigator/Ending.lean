import Signpost.Proofs.Host
import Signpost.Proofs.Navigator.Patience
import Signpost.Proofs.Scripted

/-! Launches end.

Dispatches nest only through menus, and a menu that launches something has read a line. So the lines
that are left bound how deep dispatches nest and how often one menu is drawn, and the retry limit bounds
how often a required command is launched. -/

namespace Signpost

namespace Act

variable {World α β : Type} {lines : World → Nat} {few : Nat} {act : Act World α}
  {next : α → Act World β}

/-- While only so few lines are left the act ends, and it leaves no more lines than there were. -/
def Concludes (lines : World → Nat) (few : Nat) (act : Act World α) : Prop :=
  ∀ course, lines course.world ≤ few →
    (act course).1 ≠ .error .exhausted ∧ lines (act course).2.world ≤ lines course.world

namespace Concludes

theorem pure (a : α) : (pure a : Act World α).Concludes lines few :=
  fun _ _ => ⟨ok_ne_exhausted a, Nat.le_refl _⟩

theorem refuse (error : DispatchError) : (Act.refuse error : Act World α).Concludes lines few :=
  fun _ _ => ⟨nofun, Nat.le_refl _⟩

theorem session : (Act.session : Act World Session).Concludes lines few :=
  fun _ _ => ⟨ok_ne_exhausted _, Nat.le_refl _⟩

theorem modifySession (change : Session → Session) :
    (Act.modifySession change : Act World Unit).Concludes lines few :=
  fun _ _ => ⟨ok_ne_exhausted _, Nat.le_refl _⟩

theorem ask {request : StateM World α} (event : α → Event)
    (spends : ∀ world, lines (request world).2 ≤ lines world) :
    (Act.ask request event).Concludes lines few :=
  fun course _ => ⟨ok_ne_exhausted _, spends course.world⟩

theorem bind (first : act.Concludes lines few) (rest : ∀ a, (next a).Concludes lines few) :
    (act >>= next).Concludes lines few := by
  intro course left
  obtain ⟨ends, fewer⟩ := first course left
  rcases ran : act course with ⟨halt | a, mid⟩
  · rw [ran] at ends fewer
    rw [bind_error ran]
    refine ⟨fun exhausted => ends ?_, fewer⟩
    cases exhausted
    rfl
  · rw [ran] at fewer
    rw [bind_ok ran]
    obtain ⟨ends, fewest⟩ := rest a mid (Nat.le_trans fewer left)
    exact ⟨ends, Nat.le_trans fewest fewer⟩

theorem attempt (first : act.Concludes lines few) : (Act.attempt act).Concludes lines few := by
  intro course left
  obtain ⟨ends, fewer⟩ := first course left
  unfold Act.attempt
  rcases ran : act course with ⟨(error | _) | a, mid⟩
  · rw [ran] at fewer
    exact ⟨nofun, fewer⟩
  · rw [ran] at ends
    exact absurd rfl ends
  · rw [ran] at fewer
    exact ⟨nofun, fewer⟩

theorem restoring (first : act.Concludes lines few) :
    (Act.restoring act).Concludes lines few := by
  intro course left
  obtain ⟨ends, fewer⟩ := first course left
  rcases ran : act course with ⟨halt | a, mid⟩
  · rw [ran] at ends fewer
    rw [error_restoring ran]
    exact ⟨ends, fewer⟩
  · rw [ran] at ends fewer
    rw [ok_restoring ran]
    exact ⟨ends, fewer⟩

theorem keepingPending {act : Act World Outcome} (first : act.Concludes lines few)
    (pending : Pending) : (Navigator.keepingPending pending act).Concludes lines few := by
  intro course left
  obtain ⟨ends, fewer⟩ := first course left
  unfold Navigator.keepingPending
  rcases ran : act course with ⟨halt | a, mid⟩
  · rw [ran] at ends fewer
    exact ⟨ends, fewer⟩
  · rw [ran] at ends fewer
    exact ⟨ends, fewer⟩

end Concludes

end Act

namespace Navigator

open Act

variable {World : Type} {n : Navigator World} {lines : World → Nat} {few : Nat}

section Spending

variable (spends : n.host.Spends lines)

include spends

/-! ## Requests -/

theorem load_concludes (path : String) : (n.load path).Concludes lines few := by
  refine .bind (.ask _ (spends.load path)) fun loaded => ?_
  rcases loaded with (path | ⟨path, message⟩) | document
  · exact .refuse _
  · exact .refuse _
  · exact .pure _

theorem display_concludes (payload : Payload) : (n.display payload).Concludes lines few :=
  .ask _ (spends.display payload)

theorem prompt_concludes {message : String} {next : Option String → Act World Outcome}
    (ended : (next none).Concludes lines few)
    (read : ∀ line fewer, fewer < few → (next (some line)).Concludes lines fewer) :
    (n.prompt message >>= next).Concludes lines few := by
  intro course left
  have asked : n.prompt message course =
      (.ok (n.host.prompt message course.world).1, (n.prompt message course).2) := rfl
  have fewer : lines (n.prompt message course).2.world ≤ lines course.world :=
    spends.prompt message course.world
  rw [bind_ok asked]
  cases answer : (n.host.prompt message course.world).1 with
  | none =>
    obtain ⟨ends, fewest⟩ := ended (n.prompt message course).2 (Nat.le_trans fewer left)
    exact ⟨ends, Nat.le_trans fewest fewer⟩
  | some line =>
    have spent : lines (n.prompt message course).2.world < lines course.world :=
      spends.read message course.world line answer
    obtain ⟨ends, fewest⟩ := read line _ (Nat.lt_of_lt_of_le spent left)
      (n.prompt message course).2 (Nat.le_refl _)
    exact ⟨ends, Nat.le_trans fewest fewer⟩

theorem request_concludes (request : Request) : (n.request request).Concludes lines few :=
  .bind .session fun session => .bind (.ask _ (spends.invoke request session)) fun _ => .pure _

theorem currentDocument_concludes : n.currentDocument.Concludes lines few := by
  refine .bind .session fun session => ?_
  cases session.location? with
  | none => exact .refuse _
  | some location => exact .bind (load_concludes spends _) fun _ => .pure _

theorem authorize_concludes (path : String) (permission : Option String) :
    (n.authorize path permission).Concludes lines few := by
  cases permission with
  | none => exact .pure _
  | some predicate =>
    refine .bind ?_ fun granted => ?_
    · exact .bind .session fun session => .ask _ (spends.check predicate session.identity)
    · cases granted with
      | false => exact .refuse _
      | true => exact .pure _

theorem followLink_concludes (written : String) : (n.followLink written).Concludes lines few := by
  refine .bind ?_ fun location => .bind (fun _ _ => ⟨ok_ne_exhausted _, Nat.le_refl _⟩) fun _ => .pure _
  refine .bind .session fun session => ?_
  cases Link.read written with
  | error => exact .refuse _
  | ok link =>
    refine .bind (authorize_concludes spends _ _) fun _ => .bind (load_concludes spends _) fun document => ?_
    split
    next =>
      split
      · exact .pure _
      · exact .refuse _
    next =>
      split
      · exact .pure _
      · exact .refuse _

omit spends in
theorem isBlocking_concludes : (isBlocking : Act World Bool).Concludes lines few :=
  .bind .session fun _ => .pure _

theorem plainValue_concludes (text : String) : (n.plainValue text).Concludes lines few := by
  refine .bind (.attempt (currentDocument_concludes spends)) fun found => ?_
  rcases found with error | ⟨document, block⟩
  · exact .pure _
  · dsimp only
    split
    · exact .pure _
    · split <;> exact .pure _

theorem menuSource_concludes (items : Value) : (n.menuSource items).Concludes lines few := by
  unfold menuSource
  split
  · refine .bind (request_concludes spends _) fun reply => ?_
    rcases reply with reason | (value | message | _) <;> exact .pure _
  · exact .pure _

/-! ## Launching -/

theorem invoke_concludes (collaborator : Collaborator) (name : String) (args : Value) :
    (n.invoke collaborator name args).Concludes lines few := by
  refine .bind (request_concludes spends _) fun reply => ?_
  rcases reply with reason | (value | message | _) <;> exact .pure _

omit spends in
theorem ifBlocking_concludes {next : Bool → Act World Outcome}
    (shown : (next true).Concludes lines few) (unshown : (next false).Concludes lines few) :
    (isBlocking >>= next).Concludes lines few :=
  .bind isBlocking_concludes fun blocking => by
    cases blocking
    · exact unshown
    · exact shown

theorem present_concludes (outcome : Outcome) : (n.present outcome).Concludes lines few := by
  unfold present
  split
  next => exact ifBlocking_concludes (.bind (display_concludes spends _) fun _ => .pure _) (.pure _)
  next => exact .pure _

theorem launchSimple_concludes (command : Command) : (n.launchSimple command).Concludes lines few := by
  cases command with
  | empty | menu | sequence | malformed => exact .pure _
  | call | readResource | workflow | data => exact invoke_concludes spends _ _ _
  | link target => exact .bind (followLink_concludes spends target) fun _ => .pure _
  | openResource target => exact .bind (invoke_concludes spends _ _ _) (present_concludes spends)
  | display value =>
    exact .bind .session fun _ =>
      ifBlocking_concludes (.bind (display_concludes spends _) fun _ => .pure _) (.pure _)
  | dialog spec => exact ifBlocking_concludes (invoke_concludes spends _ _ _) (.pure _)
  | plain text =>
    exact ifBlocking_concludes (.pure _) (.bind (plainValue_concludes spends text) fun _ => .pure _)

omit spends in
theorem collectAll_concludes {α : Type} {launch : α → Act World Outcome}
    (part : ∀ a, (launch a).Concludes lines few) (parts : List α) (values : List Value) :
    (collectAll launch values parts).Concludes lines few := by
  induction parts generalizing values with
  | nil => exact .pure _
  | cons a parts ih =>
    refine .bind (part a) fun outcome => ?_
    split
    · exact .pure _
    · exact ih (collect values outcome)

section Nested

variable {nested : String → Value → Act World Outcome}

theorem launchItem_concludes (inner : ∀ key value, (nested key value).Concludes lines few)
    (item : Menu.Item) : (n.launchItem nested item).Concludes lines few := by
  unfold launchItem
  split
  next => exact .pure _
  next =>
    extract_lets asCommand
    have plain : asCommand.Concludes lines few := by
      unfold asCommand
      split
      next => exact .pure _
      next => exact launchSimple_concludes spends _
      next => exact .refuse _
    refine .bind .session fun session => ?_
    split
    next => exact plain
    next location _ =>
      refine .bind (load_concludes spends _) fun document => ?_
      split
      next written command _ => exact inner written command
      next =>
        split
        next => exact .bind (fun _ _ => ⟨ok_ne_exhausted _, Nat.le_refl _⟩) fun _ => .pure _
        next => exact plain

theorem select_concludes (inner : ∀ key value, (nested key value).Concludes lines few)
    (selection : Menu.Selection) : (n.select nested selection).Concludes lines few := by
  have launched := launchItem_concludes spends inner
  cases selection with
  | single item => exact launched item
  | multi items => exact collectAll_concludes launched items []
  | narrowed => exact .pure _

theorem interact_concludes {select : Menu.Selection → Act World Outcome}
    (selected : ∀ fewer, fewer < few → ∀ selection, (select selection).Concludes lines fewer)
    {rounds : Nat} (enough : few < rounds) (view : Menu.View) :
    (n.interact select rounds view).Concludes lines few := by
  induction rounds generalizing few view with
  | zero => exact absurd enough (Nat.not_lt_zero _)
  | succ rounds ih =>
    refine .bind (.ask _ (spends.render view)) fun _ => ?_
    refine prompt_concludes spends (.pure _) fun line fewer spent => ?_
    have again (view : Menu.View) : (n.interact select rounds view).Concludes lines fewer :=
      ih (fun least less => selected least (Nat.lt_trans less spent)) (by omega) view
    dsimp only
    split
    next => exact again _
    next selection _ _ => exact selected fewer spent selection
    next => exact .bind (display_concludes spends _) fun _ => again view

theorem openMenu_concludes {select : Menu.Selection → Act World Outcome}
    (selected : ∀ fewer, fewer < few → ∀ selection, (select selection).Concludes lines fewer)
    (enough : few < n.patience.rounds) (key : String) (followUp : FollowUp) (spec : MenuSpec) :
    (n.openMenu select key followUp spec).Concludes lines few := by
  unfold openMenu
  refine .bind (menuSource_concludes spends _) fun source => ?_
  split
  next => exact .pure _
  next =>
    refine .bind .session fun session => ifBlocking_concludes ?_ ?_
    · exact interact_concludes spends selected enough _
    · exact .bind (.modifySession _) fun _ => .pure _

theorem launchAction_concludes
    (inner : ∀ fewer, fewer < few → ∀ key value, (nested key value).Concludes lines fewer)
    (enough : few < n.patience.rounds) (key : String) (followUp : FollowUp) (command : Command) :
    (n.launchAction nested key followUp command).Concludes lines few := by
  unfold launchAction
  split
  next spec =>
    have selected fewer (less : fewer < few) := select_concludes spends (inner fewer less)
    exact openMenu_concludes spends selected enough key followUp spec
  next => exact launchSimple_concludes spends _

omit spends

mutual

theorem launchElement_concludes (spends : n.host.Spends lines)
    (inner : ∀ fewer, fewer < few → ∀ key value, (nested key value).Concludes lines fewer)
    (enough : few < n.patience.rounds) (key : String) (index : Nat) (value : Value) :
    (n.launchElement nested key index value).Concludes lines few := by
  unfold launchElement
  split
  next items => exact launchElements_concludes spends inner enough key 0 [] items
  next =>
    split
    next => exact .refuse _
    next => exact .bind .session fun _ => launchAction_concludes spends inner enough key _ _

theorem launchElements_concludes (spends : n.host.Spends lines)
    (inner : ∀ fewer, fewer < few → ∀ key value, (nested key value).Concludes lines fewer)
    (enough : few < n.patience.rounds) (key : String) (index : Nat) (values elements : List Value) :
    (n.launchElements nested key index values elements).Concludes lines few := by
  cases elements with
  | nil => exact .pure _
  | cons element elements =>
    unfold launchElements
    refine .bind (launchElement_concludes spends inner enough key index element) fun outcome => ?_
    split
    · exact .pure _
    · exact launchElements_concludes spends inner enough key (index + 1) _ elements

end

include spends

theorem launchWith_concludes
    (inner : ∀ fewer, fewer < few → ∀ key value, (nested key value).Concludes lines fewer)
    (enough : few < n.patience.rounds) (key : String) (followUp : FollowUp) (command : Command) :
    (n.launchWith nested key followUp command).Concludes lines few := by
  unfold launchWith
  split
  next items => exact launchElements_concludes spends inner enough key 0 [] items
  next => exact launchAction_concludes spends inner enough key followUp _

end Nested

/-! ## Dispatching -/

theorem launchRequired_concludes {launch : Act World Outcome} (launched : launch.Concludes lines few)
    (key : String) (command : Command) (followUp : FollowUp) {rounds attempts : Nat}
    (under : attempts < n.settings.retryLimit)
    (enough : n.settings.retryLimit ≤ attempts + rounds) :
    (n.launchRequired launch key command followUp rounds attempts).Concludes lines few := by
  induction rounds generalizing attempts with
  | zero => exact absurd enough (Nat.not_le_of_lt under)
  | succ rounds ih =>
    refine .bind launched fun outcome => ?_
    cases outcome with
    | failed failure =>
      dsimp only
      split
      next => exact .pure _
      next goesOn =>
        have open_ : attempts + 1 < n.settings.retryLimit := by
          simp only [isGivenUp, Bool.and_eq_true, bne_iff_ne, decide_eq_true_eq] at goesOn
          omega
        split
        next => exact .bind (.modifySession _) fun _ => .pure _
        next => exact .bind (display_concludes spends _) fun _ => ih open_ (by omega)
    | _ => exact .pure _

end Spending

/-- A host with few lines, a retry limit, and patience for both. -/
structure Bounded (n : Navigator World) (lines : World → Nat) (few : Nat) : Prop where
  spends : n.host.Spends lines
  limited : 1 ≤ n.settings.retryLimit
  rounds : few < n.patience.rounds
  retries : n.settings.retryLimit ≤ n.patience.rounds

namespace Bounded

theorem fewer {fewer : Nat} (bounded : n.Bounded lines few) (less : fewer < few) :
    n.Bounded lines fewer :=
  { bounded with rounds := Nat.lt_trans less bounded.rounds }

theorem launchKey_concludes (bounded : n.Bounded lines few)
    {nested : String → Value → Act World Outcome}
    (inner : ∀ fewer, fewer < few → ∀ key value, (nested key value).Concludes lines fewer)
    (key : String) (followUp : FollowUp) (command : Command) :
    (n.launchKey nested key followUp command).Concludes lines few := by
  have launched := launchWith_concludes bounded.spends inner bounded.rounds key followUp command
  rw [launchKey_eq]
  refine .bind (.modifySession _) fun _ => .bind ?anchored fun _ => .bind ?_ fun _ => .pure _
  case anchored =>
    split
    · exact .modifySession _
    · exact .pure _
  split
  · exact launchRequired_concludes bounded.spends launched key command followUp bounded.limited
      (by simpa using bounded.retries)
  · exact launched

theorem dispatchWithin_concludes (bounded : n.Bounded lines few) {depth : Nat} (deep : few < depth)
    (key : String) (value : Value) : (n.dispatchWithin depth key value).Concludes lines few := by
  induction depth generalizing few key value with
  | zero => exact absurd deep (Nat.not_lt_zero _)
  | succ depth ih =>
    refine .bind .session fun session => ?_
    split
    split
    next => exact .refuse _
    next =>
      refine .restoring (bounded.launchKey_concludes (fun fewer less key value => ?_) _ _ _)
      exact ih (bounded.fewer less) (by omega) key value

section Deep

variable (bounded : n.Bounded lines few) (deep : few < n.patience.depth)

include bounded deep

theorem dispatch_concludes (key : String) (value : Value) :
    (n.dispatch key value).Concludes lines few :=
  bounded.dispatchWithin_concludes deep key value

theorem dispatchKey_concludes (key : String) : (n.dispatchKey key).Concludes lines few := by
  refine .bind (currentDocument_concludes bounded.spends) fun found => ?_
  dsimp only
  split
  next => exact .refuse _
  next written command _ => exact bounded.dispatch_concludes deep written command

theorem launchCommand_concludes (key : String) (followUp : FollowUp) (command : Command) :
    (n.launchWith n.dispatch key followUp command).Concludes lines few :=
  launchWith_concludes bounded.spends
    (fun _ less => (bounded.fewer less).dispatch_concludes (Nat.lt_trans less deep)) bounded.rounds
    key followUp command

/-! ## Answering -/

theorem retry_concludes (pending : PendingRetry) : (n.retry pending).Concludes lines few := by
  have launched := bounded.launchCommand_concludes deep pending.key pending.followUp pending.command
  refine .bind (.keepingPending (.restoring launched) _) fun outcome => ?_
  split
  · exact .pure _
  · split
    · exact .pure _
    · exact .bind (.modifySession _) fun _ => .pure _

theorem answer_concludes (pending : PendingMenu) (line : String) :
    (n.answer pending line).Concludes lines few := by
  unfold answer
  split
  next => exact .bind (.modifySession _) fun _ => .pure _
  next => exact .bind (.modifySession _) fun _ => .pure _
  next selection _ _ =>
    have selected := select_concludes bounded.spends (bounded.dispatch_concludes deep) selection
    refine .bind (.keepingPending selected _) fun outcome => ?_
    split
    · exact .bind (.modifySession _) fun _ => .pure _
    · exact .pure _

theorem resume_concludes (line : String) : (n.resume line).Concludes lines few := by
  refine .bind .session fun session => .bind (.modifySession _) fun _ => ?_
  split
  next => exact .pure _
  next pending _ => exact bounded.retry_concludes deep pending
  next pending _ => exact bounded.answer_concludes deep pending line

theorem perform_concludes (call : Call) : (n.perform call).Concludes lines few := by
  cases call with
  | start path =>
    refine .bind (.bind (load_concludes bounded.spends path) fun document => ?_) fun _ => .pure _
    split
    next => exact .refuse _
    next =>
      exact .bind (.modifySession _) fun _ =>
        .bind (fun _ _ => ⟨ok_ne_exhausted _, Nat.le_refl _⟩) fun _ => .pure _
  | dispatch key value => exact bounded.dispatch_concludes deep key value
  | dispatchKey key => exact bounded.dispatchKey_concludes deep key
  | launch command =>
    exact .bind .session fun _ => bounded.launchCommand_concludes deep "" _ command
  | resume line => exact bounded.resume_concludes deep line
  | goBack => exact fun _ _ => ⟨ok_ne_exhausted _, Nat.le_refl _⟩

end Deep

end Bounded

def patienceFor (n : Navigator World) (few : Nat) : Patience :=
  ⟨few + 1, max (few + 1) n.settings.retryLimit, 0⟩

theorem bounded_patienceFor (spends : n.host.Spends lines) (limited : 1 ≤ n.settings.retryLimit)
    (few : Nat) : (n.within (n.patienceFor few)).Bounded lines few where
  spends := spends
  limited := limited
  rounds := Nat.lt_of_lt_of_le (Nat.lt_succ_self few) (Nat.le_max_left ..)
  retries := Nat.le_max_right ..

/-- However the documents refer to each other: where only so many lines can be read, dispatches nest
at most once more than that. With patience for this depth every call ends, and to be prepared for
deeper dispatches or longer loops changes nothing. -/
theorem perform_ends (spends : n.host.Spends lines) (limited : 1 ≤ n.settings.retryLimit)
    (call : Call) (course : Course World) :
    ∃ result after, result ≠ .error .exhausted ∧ ∀ patience : Patience,
      lines course.world + 1 ≤ patience.depth →
        max (lines course.world + 1) n.settings.retryLimit ≤ patience.rounds →
          (n.within patience).perform call course = (result, after) := by
  have bounded := bounded_patienceFor spends limited (lines course.world)
  have concludes := bounded.perform_concludes (Nat.lt_succ_self _) call
  obtain ⟨ends, -⟩ := concludes course (Nat.le_refl _)
  let least := n.within (n.patienceFor (lines course.world))
  refine ⟨(least.perform call course).1, (least.perform call course).2, ends,
    fun patience deep long => ?_⟩
  have longer : least.patience ≤ patience := ⟨deep, long, Nat.zero_le _⟩
  exact least.perform_approximates longer call course ends

namespace Sample

def mirrors : Document where
  path := "/app"
  blocks := [
    ("main", [
      ("again", .obj [("menu", .arr [.str "again", .str "leave"])]),
      ("leave", .str "link(.end)")]),
    ("end", [])]

/-- A user who looks twice and leaves. -/
def gazing : Course Script where
  session := (visit .blocking [] []).session
  world := { documents := [("/app", .ok mirrors)], lines := ["again", "again", "leave"] }

/-- Four dispatches nest, as many as three lines allow. -/
theorem perform_ends_gazing :
    (∀ patience : Patience, 4 ≤ patience.depth → 25 ≤ patience.rounds →
      ((navigator.within patience).perform (.dispatchKey "again") gazing).1 =
        .ok (.relocated ⟨"/app", "end"⟩)) ∧
    ((navigator.within ⟨3, 25, 0⟩).perform (.dispatchKey "again") gazing).1 =
      .error .exhausted := by
  have limited : 1 ≤ navigator.settings.retryLimit := by decide
  obtain ⟨result, after, -, same⟩ :=
    perform_ends (n := navigator) Script.host_spends limited (.dispatchKey "again") gazing
  have left : ((navigator.within ⟨4, 25, 0⟩).perform (.dispatchKey "again") gazing).1 =
      .ok (.relocated ⟨"/app", "end"⟩) := by
    decide +kernel
  have least := same ⟨4, 25, 0⟩ (Nat.le_refl _) (Nat.le_refl _)
  refine ⟨fun patience deep long => ?_, by decide +kernel⟩
  rw [same patience deep long, ← least]
  exact left

end Sample

end Navigator

end Signpost
