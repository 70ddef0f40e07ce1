import Signpost.Navigator.Walk
import Signpost.Proofs.Navigator.Errand
import Signpost.Proofs.Navigator.Following
import Signpost.Proofs.Navigator.OneMove

/-! What a walk does in one block.

A walk dispatches the keys of a block in order, and reports each of them with the location that it has
noted on entry. As long as it goes on with the next key the session has not moved, so the note stays
right. -/

namespace Signpost

def Event.step? : Event → Option Step
  | .stepped step => some step
  | _ => none

def Course.reports {World : Type} (course : Course World) : List Step :=
  (course.log.filterMap Event.step?).reverse

/-- How many keys have been dispatched, if the walk may still tell. -/
def Navigator.Turn.steps? : Navigator.Turn → Option Nat
  | enter steps | leave steps => some steps
  | stop summary => some summary.steps
  | failed _ => none

/-- A key that a walk has dispatched: the course just before, the key with its command, and what the
dispatch came to. -/
structure Pace (World : Type) where
  before : Course World
  key : String
  command : Value
  result : Except DispatchError Outcome

namespace Pace

variable {World : Type} (pace : Pace World)

def entry : String × Value := (pace.key, pace.command)

@[simp] theorem entry_mk (before : Course World) (key : String) (command : Value)
    (result : Except DispatchError Outcome) :
    entry ⟨before, key, command, result⟩ = (key, command) := rfl

def step (location : Location) : Step := ⟨pace.key, location, pace.result⟩

/-- The walk does not go on to the next key of the block. -/
def Departs : Prop :=
  match pace.result with
  | .ok (.relocated _) | .ok .back | .ok .abort => True
  | .ok _ => False
  | .error error => error.isRecoverable = false

end Pace

/-- No step is reported meanwhile, however the act ends. -/
def Charter.unreported (World : Type) : Charter World where
  passes course after := after.reports = course.reports
  halts course _ after := after.reports = course.reports

namespace Navigator

open Act Session

variable {World : Type} (n : Navigator World)

/-! ## Reports -/

theorem reports_of_silent {course after : Course World} {event : Event}
    (logged : after.log = event :: course.log) (silent : event.step? = none) :
    after.reports = course.reports := by
  unfold Course.reports
  rw [logged, List.filterMap_cons_none silent]

theorem checking_reports (permission : Option String) (course : Course World) :
    (n.checking permission course).reports = course.reports := by
  cases permission with
  | none => rfl
  | some predicate => exact reports_of_silent rfl rfl

theorem followLink_reports (written : String) :
    (n.followLink written).Honours .nothing (Charter.unreported World) fun _ => True := by
  intro course _
  have asked (path : String) (permission : Option String) :
      (n.loading path (n.checking permission course)).reports = course.reports :=
    (reports_of_silent rfl rfl).trans (n.checking_reports permission course)
  rcases ran : n.followLink written course with ⟨result, after⟩
  cases n.of_followLink ran with
  | unreadable => exact ⟨trivial, rfl⟩
  | denied => exact ⟨trivial, n.checking_reports _ course⟩
  | unloaded | closed => exact ⟨trivial, asked _ _⟩
  | arrived => exact ⟨trivial, trivial, asked _ _⟩

/-- Only walks report steps. -/
theorem unreported_full : (Charter.unreported World).Full n .nothing where
  refl _ := rfl
  trans first second := second.trans first
  after passed halted := halted.trans passed
  foreseen _ _ := rfl
  restored halted := halted
  kept halted := halted
  asked event course world exchange := by
    have silent : event.step? = none := by
      cases event with
      | stepped => cases exchange
      | _ => rfl
    exact reports_of_silent rfl silent
  changed _ := rfl
  loads _ _ _ _ := trivial
  cleared _ := trivial
  anchored _ := trivial
  pended _ _ := trivial
  followLink := n.followLink_reports
  jump _ _ _ _ _ _ := ⟨trivial, trivial, rfl⟩
  opened _ _ _ := ⟨trivial, rfl⟩
  back _ _ := ⟨trivial, trivial, rfl⟩

variable {n}

theorem reports_of_honours {α : Type} {act : Act World α} {kind : α → Prop}
    (honours : act.Honours .nothing (Charter.unreported World) kind) {course after : Course World}
    {result : Except Halt α} (ran : act course = (result, after)) :
    after.reports = course.reports := by
  rcases result with halt | a
  · exact (honours.of_error ran trivial).2
  · exact (honours.of_ok ran trivial).2.2

theorem dispatch_reports {key : String} {command : Value} {course after : Course World}
    {result : Except Halt Outcome} (ran : n.dispatch key command course = (result, after)) :
    after.reports = course.reports :=
  reports_of_honours (n.unreported_full.law.dispatch key command trivial) ran

theorem currentBlock_reports {course after : Course World} {result : Except Halt Block}
    (ran : n.currentBlock course = (result, after)) : after.reports = course.reports := by
  have law := n.unreported_full.law
  have honours : n.currentBlock.Honours .nothing (Charter.unreported World) fun _ => True := by
    refine .bind n.unreported_full.toFair law.currentDocument fun found _ => ?_
    dsimp only
    split
    · exact law.pure _
    · exact .refuse n.unreported_full.toFair (.blockNotFound _ _)
  exact reports_of_honours honours ran

theorem start_reports {path : String} {course after : Course World} {result : Except Halt Location}
    (ran : n.start path course = (result, after)) : after.reports = course.reports :=
  reports_of_honours (n.unreported_full.start path) ran

variable (n)

/-! ## One key -/

def shown? : Except DispatchError Outcome → Option Payload
  | .ok (.done value) => some (.ofValue value)
  | .ok (.failed failure) => some (.message failure.message)
  | .ok _ => none
  | .error error => if error.isRecoverable then some (.message error.message) else none

/-- Where a walk goes after a key; nowhere, if the next key of the block comes next. -/
def turn? (steps : Nat) (key : String) : Except DispatchError Outcome → Option Turn
  | .ok (.relocated _) => some (.enter steps)
  | .ok .back => some (.leave steps)
  | .ok .abort => some (.stop ⟨.aborted, steps⟩)
  | .ok _ => none
  | .error error => if error.isRecoverable then none else some (.failed (.dispatch key error))

def reported (location : Location) (key : String) (result : Except DispatchError Outcome)
    (course : Course World) : Course World :=
  let noted := { course with log := .stepped ⟨key, location, result⟩ :: course.log }
  match shown? result with
  | some payload => (n.display payload noted).2
  | none => noted

section Reported

variable (location : Location) (key : String) (result : Except DispatchError Outcome)
  (course : Course World)

@[simp] theorem reported_session : (n.reported location key result course).session = course.session := by
  unfold reported
  split <;> rfl

theorem reported_reports : (n.reported location key result course).reports =
    course.reports ++ [⟨key, location, result⟩] := by
  have noted : Course.reports
      { course with log := .stepped ⟨key, location, result⟩ :: course.log } =
        course.reports ++ [⟨key, location, result⟩] := List.reverse_cons ..
  unfold reported
  split
  · exact Eq.trans (reports_of_silent rfl rfl) noted
  · exact noted

end Reported

theorem walkBlock_cons {limit steps : Nat} {location : Location} {key : String} {command : Value}
    {rest : Block} {course : Course World} :
    n.walkBlock limit location steps ((key, command) :: rest) course =
      if limit != 0 && limit ≤ steps then (.ok (.stop ⟨.stepLimit limit, steps⟩), course)
      else match Act.attempt (n.dispatch key command) course with
        | (.error halt, after) => (.error halt, after)
        | (.ok result, after) =>
            match turn? (steps + 1) key result with
            | some turn => (.ok turn, n.reported location key result after)
            | none => n.walkBlock limit location (steps + 1) rest
                (n.reported location key result after) := by
  rw [walkBlock]
  split
  next => rfl
  next =>
    rcases ran : Act.attempt (n.dispatch key command) course with ⟨halt | result, after⟩
    · rw [bind_error ran]
    · rw [bind_ok ran]
      rcases result with error | outcome
      · cases recoverable : error.isRecoverable <;>
          simp only [turn?, reported, shown?, recoverable] <;> rfl
      · cases outcome <;> rfl

/-! ## One block -/

/-- What a walk does with the keys of a block that are left, and what it comes to: the block is done,
the limit is reached, a dispatch does not end, the walk turns elsewhere, or it goes on with the next
key. -/
inductive Stays (limit : Nat) (location : Location) : Nat → Block → Course World →
    List (Pace World) → Except Halt Turn → Course World → Prop where
  | done {steps : Nat} {course : Course World} :
      Stays limit location steps [] course [] (.ok (.leave steps)) course
  | limited {steps : Nat} {entry : String × Value} {rest : Block} {course : Course World} :
      limit ≠ 0 → limit ≤ steps →
        Stays limit location steps (entry :: rest) course [] (.ok (.stop ⟨.stepLimit limit, steps⟩))
          course
  | unreturned {steps : Nat} {key : String} {command : Value} {rest : Block}
      {course after : Course World} : (limit ≠ 0 → steps < limit) →
        n.dispatch key command course = (.error .exhausted, after) →
          Stays limit location steps ((key, command) :: rest) course [] (.error .exhausted) after
  | turned {steps : Nat} {key : String} {command : Value} {rest : Block}
      {course after : Course World} {result : Except DispatchError Outcome} {turn : Turn} :
      (limit ≠ 0 → steps < limit) →
        Act.attempt (n.dispatch key command) course = (.ok result, after) →
          turn? (steps + 1) key result = some turn →
            Stays limit location steps ((key, command) :: rest) course
              [⟨course, key, command, result⟩] (.ok turn) (n.reported location key result after)
  | onward {steps : Nat} {key : String} {command : Value} {rest : Block}
      {course after last : Course World} {result : Except DispatchError Outcome}
      {paces : List (Pace World)} {out : Except Halt Turn} :
      (limit ≠ 0 → steps < limit) →
        Act.attempt (n.dispatch key command) course = (.ok result, after) →
          turn? (steps + 1) key result = none →
            Stays limit location (steps + 1) rest (n.reported location key result after) paces out
              last →
              Stays limit location steps ((key, command) :: rest) course
                (⟨course, key, command, result⟩ :: paces) out last

variable {n} {limit steps : Nat} {location : Location} {entries : Block}
  {course after : Course World} {paces : List (Pace World)} {out : Except Halt Turn}

theorem stays_of_walkBlock
    (walked : n.walkBlock limit location steps entries course = (out, after)) :
    ∃ paces, n.Stays limit location steps entries course paces out after := by
  induction entries generalizing steps course with
  | nil =>
    cases walked
    exact ⟨[], .done⟩
  | cons entry rest ih =>
    obtain ⟨key, command⟩ := entry
    rw [walkBlock_cons] at walked
    by_cases reached : (limit != 0 && decide (limit ≤ steps)) = true
    · rw [if_pos reached] at walked
      cases walked
      simp only [Bool.and_eq_true, bne_iff_ne, decide_eq_true_eq] at reached
      exact ⟨[], .limited reached.1 reached.2⟩
    · rw [if_neg reached] at walked
      have under : limit ≠ 0 → steps < limit := by
        simp only [Bool.and_eq_true, bne_iff_ne, decide_eq_true_eq, not_and] at reached
        exact fun limits => Nat.lt_of_not_le (reached limits)
      rcases ran : Act.attempt (n.dispatch key command) course with ⟨halt | result, mid⟩
      · rw [ran] at walked
        cases walked
        obtain ⟨rfl, unreturned⟩ := of_attempt_error ran
        exact ⟨[], .unreturned under unreturned⟩
      · rw [ran] at walked
        cases turns : turn? (steps + 1) key result with
        | some turn =>
          simp only [turns] at walked
          cases walked
          exact ⟨_, .turned under ran turns⟩
        | none =>
          simp only [turns] at walked
          obtain ⟨paces, stays⟩ := ih walked
          exact ⟨_, .onward under ran turns stays⟩

theorem location?_of_onward {key : String} {command : Value}
    {result : Except DispatchError Outcome}
    (ran : Act.attempt (n.dispatch key command) course = (.ok result, after))
    (onward : turn? steps key result = none) :
    after.session.location? = course.session.location? := by
  rcases of_attempt_ok ran with ⟨outcome, rfl, dispatched⟩ | ⟨error, rfl, refused⟩
  · have leads := (n.dispatch_travels key command).of_run dispatched
    cases outcome with
    | empty | done | failed | pending => exact Lingers.location? leads
    | relocated | back | abort => cases onward
  · rw [n.dispatch_undone key command refused]

theorem departs_of_turn {key : String} {command : Value} {result : Except DispatchError Outcome}
    {turn : Turn} (turns : turn? steps key result = some turn) :
    Pace.Departs ⟨course, key, command, result⟩ := by
  unfold Pace.Departs
  rcases result with error | outcome
  · unfold turn? at turns
    cases recoverable : error.isRecoverable with
    | true => simp [recoverable] at turns
    | false => exact recoverable
  · cases outcome with
    | relocated | back | abort => trivial
    | empty | done | failed | pending => cases turns

theorem steps_of_turn {key : String} {result : Except DispatchError Outcome} {turn : Turn}
    (turns : turn? steps key result = some turn) {total : Nat}
    (counts : turn.steps? = some total) : total = steps := by
  rcases result with error | outcome
  · unfold turn? at turns
    cases recoverable : error.isRecoverable <;> simp [recoverable] at turns
    subst turns
    cases counts
  · cases outcome <;> cases turns <;> cases counts <;> rfl

variable (n) in
/-- The dispatch of the first of these keys has been left there without an end. -/
def Unreturned (entries : Block) (left : Course World) : Prop :=
  ∃ key command rest before, entries = (key, command) :: rest ∧
    n.dispatch key command before = (.error .exhausted, left)

namespace Stays

variable (stays : n.Stays limit location steps entries course paces out after)

include stays

theorem in_order : paces.map Pace.entry <+: entries := by
  induction stays with
  | done | limited | unreturned => exact List.nil_prefix
  | turned =>
    rw [List.map_singleton, Pace.entry_mk, List.cons_prefix_cons]
    exact ⟨rfl, List.nil_prefix⟩
  | onward _ _ _ _ ih =>
    rw [List.map_cons, Pace.entry_mk, List.cons_prefix_cons]
    exact ⟨rfl, ih⟩

theorem located (here : course.session.location? = some location) :
    ∀ pace ∈ paces, pace.before.session.location? = some location := by
  induction stays with
  | done | limited | unreturned => exact List.forall_mem_nil _
  | turned => exact List.forall_mem_singleton.mpr here
  | onward _ ran goes _ ih =>
    refine List.forall_mem_cons.mpr ⟨here, ih ?_⟩
    rw [reported_session, location?_of_onward ran goes, here]

theorem dispatched : ∀ pace ∈ paces,
    (Act.attempt (n.dispatch pace.key pace.command) pace.before).1 = .ok pace.result := by
  induction stays with
  | done | limited | unreturned => exact List.forall_mem_nil _
  | turned _ ran => exact List.forall_mem_singleton.mpr (congrArg Prod.fst ran)
  | onward _ ran _ _ ih => exact List.forall_mem_cons.mpr ⟨congrArg Prod.fst ran, ih⟩

theorem reports : after.reports = course.reports ++ paces.map (·.step location) := by
  have attempted {key : String} {command : Value} {course mid : Course World}
      {result : Except DispatchError Outcome}
      (ran : Act.attempt (n.dispatch key command) course = (.ok result, mid)) :
      (n.reported location key result mid).reports =
        course.reports ++ [⟨key, location, result⟩] := by
    rw [reported_reports]
    rcases of_attempt_ok ran with ⟨_, _, dispatched⟩ | ⟨_, _, dispatched⟩ <;>
      rw [dispatch_reports dispatched]
  induction stays with
  | done | limited => simp
  | unreturned _ unreturned => simp [dispatch_reports unreturned]
  | turned _ ran => exact attempted ran
  | onward _ ran _ _ ih => rw [ih, attempted ran, List.append_assoc]; rfl

theorem counted {turn : Turn} (ended : out = .ok turn) {total : Nat}
    (counts : turn.steps? = some total) : total = steps + paces.length := by
  induction stays with
  | done | limited =>
    cases ended
    cases counts
    rfl
  | unreturned => cases ended
  | turned _ _ turns =>
    cases ended
    exact steps_of_turn turns counts
  | onward _ _ _ _ ih =>
    rw [ih ended, List.length_cons]
    omega

/-- It is dispatches alone that may never end. -/
theorem exhausted {halt : Halt} (halted : out = .error halt) : halt = .exhausted := by
  induction stays with
  | done | limited | turned => cases halted
  | unreturned =>
    cases halted
    rfl
  | onward _ _ _ _ ih => exact ih halted

theorem within_limit (limits : limit ≠ 0) (under : steps ≤ limit) :
    steps + paces.length ≤ limit := by
  induction stays with
  | done | limited | unreturned => exact under
  | turned less => exact less limits
  | onward less _ _ _ ih =>
    have rest := ih (less limits)
    simp only [List.length_cons]
    omega

/-- Keys are left only after one that departs, at the limit, or when the next one does not return. -/
theorem cut (short : paces.length < entries.length) :
    (∃ pace, paces.getLast? = some pace ∧ pace.Departs) ∨
      (limit ≠ 0 ∧ limit ≤ steps + paces.length ∧
        out = .ok (.stop ⟨.stepLimit limit, steps + paces.length⟩)) ∨
      (out = .error .exhausted ∧ n.Unreturned (entries.drop paces.length) after) := by
  induction stays with
  | done => cases short
  | limited limits reached => exact .inr (.inl ⟨limits, reached, rfl⟩)
  | unreturned _ unreturned => exact .inr (.inr ⟨rfl, _, _, _, _, rfl, unreturned⟩)
  | turned _ _ turns => exact .inl ⟨_, rfl, departs_of_turn turns⟩
  | @onward steps _ _ _ _ _ _ _ paces _ _ _ _ _ ih =>
    have next : steps + 1 + paces.length = steps + (paces.length + 1) := by omega
    rw [List.length_cons, List.drop_succ_cons, ← next]
    rcases ih (Nat.lt_of_succ_lt_succ short) with ⟨pace, last, departs⟩ | stopped
    · exact .inl ⟨pace, List.mem_getLast?_cons last, departs⟩
    · exact .inr stopped

/-- A walk stops at its limit only with keys left. -/
theorem limited_short {other total : Nat}
    (stopped : out = .ok (.stop ⟨.stepLimit other, total⟩)) :
    other = limit ∧ limit ≤ total ∧ paces.length < entries.length := by
  induction stays with
  | done | unreturned => cases stopped
  | limited _ reached =>
    cases stopped
    exact ⟨rfl, reached, Nat.succ_pos _⟩
  | @turned _ key _ _ _ _ result _ _ _ turns =>
    cases stopped
    rcases result with error | outcome
    · unfold turn? at turns
      cases recoverable : error.isRecoverable <;> simp [recoverable] at turns
    · cases outcome <;> cases turns
  | onward _ _ _ _ ih =>
    obtain ⟨same, reached, short⟩ := ih stopped
    exact ⟨same, reached, Nat.succ_lt_succ short⟩

end Stays

end Navigator

end Signpost
