import Signpost.Proofs.Navigator.Stay

/-! The blocks of a walk.

A walk stays in one block after the other. Every stay begins with the entries that are loaded on entry,
and what it comes to tells where the next one begins, if there is a next one. -/

namespace Signpost

/-- A walk's stay in a block: the course on entry, the location that is noted, the entries that are
loaded, and the keys that are dispatched. -/
structure Stay (World : Type) where
  entered : Course World
  location : Location
  entries : Block
  paces : List (Pace World)

def Stay.reports {World : Type} (stay : Stay World) : List Step :=
  stay.paces.map (·.step stay.location)

@[simp] theorem Stay.length_reports {World : Type} (stay : Stay World) :
    stay.reports.length = stay.paces.length := List.length_map _

/-- The last key has led away or ended the walk. -/
def Stay.Departs {World : Type} (stay : Stay World) : Prop :=
  ∃ pace, stay.paces.getLast? = some pace ∧ pace.Departs

namespace Navigator

open Act

variable {World : Type} (n : Navigator World)

/-- How a stay begins, and what it comes to. -/
structure Lodges (limit steps : Nat) (stay : Stay World) (out : Except Halt Turn)
    (left : Course World) : Prop where
  located : stay.entered.session.location? = some stay.location
  loads : ∃ loaded, n.currentBlock stay.entered = (.ok stay.entries, loaded) ∧
    n.Stays limit stay.location steps stay.entries loaded stay.paces out left

/-- The stays of a walk and its end: its patience is used up, there is nowhere to be, the block cannot
be opened, or there is a stay. After a stay the walk moves on to another block, returns along the trail,
finishes where there is nothing to return to, stops, fails, or waits for a dispatch without an end. -/
inductive Tours (limit : Nat) : (visits steps : Nat) → Course World → List (Stay World) →
    Except Halt (Except WalkError Summary) → Course World → Prop where
  | unfinished {steps : Nat} {course : Course World} :
      Tours limit 0 steps course [] (.error .exhausted) course
  | nowhere {visits steps : Nat} {course : Course World} : course.session.location? = none →
      Tours limit (visits + 1) steps course [] (.ok (.error .nowhere)) course
  | closed {visits steps : Nat} {course after : Course World} {location : Location}
      {error : DispatchError} : course.session.location? = some location →
        n.currentBlock course = (.error (.refused error), after) →
          Tours limit (visits + 1) steps course [] (.ok (.error (.enter location error))) after
  | moves {visits steps next : Nat} {stay : Stay World} {left after : Course World}
      {stays : List (Stay World)} {result : Except Halt (Except WalkError Summary)} :
      n.Lodges limit steps stay (.ok (.enter next)) left →
        Tours limit visits next left stays result after →
          Tours limit (visits + 1) steps stay.entered (stay :: stays) result after
  | returns {visits steps next : Nat} {stay : Stay World} {left back after : Course World}
      {location : Location} {stays : List (Stay World)}
      {result : Except Halt (Except WalkError Summary)} :
      n.Lodges limit steps stay (.ok (.leave next)) left →
        n.goBack left = (.ok (.relocated location), back) →
          Tours limit visits next back stays result after →
            Tours limit (visits + 1) steps stay.entered (stay :: stays) result after
  | finishes {visits steps next : Nat} {stay : Stay World} {left back : Course World}  :
      n.Lodges limit steps stay (.ok (.leave next)) left → n.goBack left = (.ok .empty, back) →
        Tours limit (visits + 1) steps stay.entered [stay] (.ok (.ok ⟨.finished, next⟩)) back
  | stops {visits steps : Nat} {stay : Stay World} {left : Course World} {summary : Summary} :
      n.Lodges limit steps stay (.ok (.stop summary)) left →
        Tours limit (visits + 1) steps stay.entered [stay] (.ok (.ok summary)) left
  | fails {visits steps : Nat} {stay : Stay World} {left : Course World} {error : WalkError} :
      n.Lodges limit steps stay (.ok (.failed error)) left →
        Tours limit (visits + 1) steps stay.entered [stay] (.ok (.error error)) left
  | waits {visits steps : Nat} {stay : Stay World} {left : Course World} :
      n.Lodges limit steps stay (.error .exhausted) left →
        Tours limit (visits + 1) steps stay.entered [stay] (.error .exhausted) left

/-- The stays of a walk from the start of a document, or from the current location without a path. -/
inductive Walks (limit : Nat) : Option String → Course World → List (Stay World) →
    Except Halt (Except WalkError Summary) → Course World → Prop where
  | resumed {course after : Course World} {stays : List (Stay World)}
      {result : Except Halt (Except WalkError Summary)} :
      n.Tours limit n.patience.visits 0 course stays result after →
        Walks limit none course stays result after
  | started {path : String} {location : Location} {course began after : Course World}
      {stays : List (Stay World)} {result : Except Halt (Except WalkError Summary)} :
      n.start path course = (.ok location, began) →
        n.Tours limit n.patience.visits 0 began stays result after →
          Walks limit (some path) course stays result after
  | refused {path : String} {error : DispatchError} {course after : Course World} :
      n.start path course = (.error (.refused error), after) →
        Walks limit (some path) course [] (.ok (.error (.start path error))) after

/-- The walk ends here before the next key of the block, at its limit or for a dispatch that does not
return. -/
def Breaks (limit : Nat) (stay : Stay World) (result : Except Halt (Except WalkError Summary))
    (after : Course World) : Prop :=
  limit ≠ 0 ∧ result = .ok (.ok ⟨.stepLimit limit, limit⟩) ∨
    result = .error .exhausted ∧ n.Unreturned (stay.entries.drop stay.paces.length) after

variable {n} {limit visits steps : Nat} {course after : Course World}
  {result : Except Halt (Except WalkError Summary)}

/-- A step back either arrives or finds nothing. -/
theorem goBack_cases (course : Course World) :
    (∃ location back, n.goBack course = (.ok (.relocated location), back)) ∨
      ∃ back, n.goBack course = (.ok .empty, back) := by
  unfold goBack
  rcases course.session.clearPending.stepBack (n.host.now course.world) with ⟨_ | location, session⟩
  · exact .inr ⟨_, rfl⟩
  · exact .inl ⟨location, _, rfl⟩

/-! ## Runs -/

variable (n) in
def onward (limit visits : Nat) : Turn → Act World (Except WalkError Summary)
  | .enter steps => n.walkFrom limit visits steps
  | .leave steps => do
      match ← n.goBack with
      | .relocated _ => n.walkFrom limit visits steps
      | _ => return .ok ⟨.finished, steps⟩
  | .stop summary => return .ok summary
  | .failed error => return .error error

theorem walkFrom_nowhere (nowhere : course.session.location? = none) :
    n.walkFrom limit (visits + 1) steps course = (.ok (.error .nowhere), course) := by
  rw [walkFrom, bind_ok session_run, nowhere]
  rfl

theorem walkFrom_closed {location : Location} {error : DispatchError}
    (located : course.session.location? = some location)
    (closed : n.currentBlock course = (.error (.refused error), after)) :
    n.walkFrom limit (visits + 1) steps course = (.ok (.error (.enter location error)), after) := by
  have attempted : Act.attempt n.currentBlock course = (.ok (.error error), after) := by
    simp only [Act.attempt, closed]
  rw [walkFrom, bind_ok session_run, located]
  dsimp only
  rw [bind_ok attempted]
  rfl

theorem walkFrom_opened {location : Location} {entries : Block} {loaded : Course World}
    (located : course.session.location? = some location)
    (opened : n.currentBlock course = (.ok entries, loaded)) :
    n.walkFrom limit (visits + 1) steps course =
      (n.walkBlock limit location steps entries >>= n.onward limit visits) loaded := by
  have attempted : Act.attempt n.currentBlock course = (.ok (.ok entries), loaded) := by
    simp only [Act.attempt, opened]
  rw [walkFrom, bind_ok session_run, located]
  dsimp only
  rw [bind_ok attempted]
  refine congrFun (congrArg (n.walkBlock limit location steps entries >>= ·) ?_) loaded
  funext turn
  cases turn <;> rfl

/-- A block is refused or opened, and nothing else can happen on entry. -/
theorem currentBlock_cases (course : Course World) :
    (∃ error closed, n.currentBlock course = (.error (.refused error), closed)) ∨
      ∃ entries loaded, n.currentBlock course = (.ok entries, loaded) := by
  rcases opened : n.currentBlock course with ⟨(error | _) | entries, loaded⟩
  · exact .inl ⟨error, loaded, rfl⟩
  · exact absurd (congrArg Prod.fst opened) (n.currentBlock_ends course)
  · exact .inr ⟨entries, loaded, rfl⟩

theorem tours_of_onward {stay : Stay World} {turn : Turn} {left : Course World}
    (rest : ∀ {steps course}, n.walkFrom limit visits steps course = (result, after) →
      ∃ stays, n.Tours limit visits steps course stays result after)
    (lodges : n.Lodges limit steps stay (.ok turn) left)
    (walked : n.onward limit visits turn left = (result, after)) :
    ∃ stays, n.Tours limit (visits + 1) steps stay.entered (stay :: stays) result after := by
  cases turn with
  | enter next =>
    obtain ⟨stays, tours⟩ := rest walked
    exact ⟨stays, .moves lodges tours⟩
  | leave next =>
    rw [onward] at walked
    rcases goBack_cases (n := n) left with ⟨there, back, returned⟩ | ⟨back, stuck⟩
    · rw [bind_ok returned] at walked
      obtain ⟨stays, tours⟩ := rest walked
      exact ⟨stays, .returns lodges returned tours⟩
    · rw [bind_ok stuck] at walked
      cases walked
      exact ⟨[], .finishes lodges stuck⟩
  | stop summary =>
    cases walked
    exact ⟨[], .stops lodges⟩
  | failed error =>
    cases walked
    exact ⟨[], .fails lodges⟩

theorem tours_of_walkFrom (walked : n.walkFrom limit visits steps course = (result, after)) :
    ∃ stays, n.Tours limit visits steps course stays result after := by
  induction visits generalizing steps course with
  | zero =>
    cases walked
    exact ⟨[], .unfinished⟩
  | succ visits ih =>
    cases located : course.session.location? with
    | none =>
      rw [walkFrom_nowhere located] at walked
      cases walked
      exact ⟨[], .nowhere located⟩
    | some location =>
      rcases n.currentBlock_cases course with ⟨error, closed, refused⟩ | ⟨entries, loaded, opened⟩
      · rw [walkFrom_closed located refused] at walked
        cases walked
        exact ⟨[], .closed located refused⟩
      · rw [walkFrom_opened located opened] at walked
        rcases stayed : n.walkBlock limit location steps entries loaded with ⟨out, left⟩
        obtain ⟨paces, stays⟩ := stays_of_walkBlock stayed
        have lodges : n.Lodges limit steps ⟨course, location, entries, paces⟩ out left :=
          ⟨located, loaded, opened, stays⟩
        rcases out with halt | turn
        · rw [bind_error stayed] at walked
          cases walked
          cases stays.exhausted rfl
          exact ⟨_, .waits lodges⟩
        · rw [bind_ok stayed] at walked
          obtain ⟨stays, tours⟩ := tours_of_onward ih lodges walked
          exact ⟨_, tours⟩

theorem walks_of_walk {path : Option String} (walked : n.walk path limit course = (result, after)) :
    ∃ stays, n.Walks limit path course stays result after := by
  cases path with
  | none =>
    obtain ⟨stays, tours⟩ := tours_of_walkFrom walked
    exact ⟨stays, .resumed tours⟩
  | some path =>
    rcases began : Act.attempt (n.start path) course with ⟨halt | result, mid⟩
    · exact absurd (congrArg Prod.fst began) (n.start_ends path).attempt
    · rw [walk, bind_ok began] at walked
      rcases of_attempt_ok began with ⟨location, rfl, started⟩ | ⟨error, rfl, refused⟩
      · obtain ⟨stays, tours⟩ := tours_of_walkFrom walked
        exact ⟨stays, .started started tours⟩
      · cases walked
        exact ⟨[], .refused refused⟩

/-! ## What is reported -/

theorem goBack_reports {outcome : Outcome} {back : Course World}
    (returned : n.goBack course = (.ok outcome, back)) : back.reports = course.reports := by
  cases returned
  rfl

namespace Lodges

variable {stay : Stay World} {out : Except Halt Turn} {left : Course World}
  (lodges : n.Lodges limit steps stay out left)

include lodges

theorem reports : left.reports = stay.entered.reports ++ stay.reports := by
  obtain ⟨loaded, opened, stays⟩ := lodges.loads
  rw [stays.reports, currentBlock_reports opened, Stay.reports]

theorem counted {turn : Turn} (ended : out = .ok turn) {next : Nat}
    (counts : turn.steps? = some next) : next = steps + stay.paces.length := by
  obtain ⟨loaded, -, stays⟩ := lodges.loads
  exact stays.counted ended counts

theorem within_limit (under : limit ≠ 0 → steps ≤ limit) (limits : limit ≠ 0) :
    steps + stay.paces.length ≤ limit := by
  obtain ⟨loaded, -, stays⟩ := lodges.loads
  exact stays.within_limit limits (under limits)

/-- The session is where it was on entry whenever a key is dispatched. -/
theorem located_paces : ∀ pace ∈ stay.paces,
    pace.before.session.location? = some stay.location := by
  obtain ⟨loaded, opened, stays⟩ := lodges.loads
  refine stays.located ?_
  rw [n.currentBlock_still.of_run opened]
  exact lodges.located

theorem cut (under : limit ≠ 0 → steps ≤ limit) (short : stay.paces.length < stay.entries.length) :
    stay.Departs ∨ limit ≠ 0 ∧ out = .ok (.stop ⟨.stepLimit limit, limit⟩) ∨
      out = .error .exhausted ∧ n.Unreturned (stay.entries.drop stay.paces.length) left := by
  have within := lodges.within_limit under
  obtain ⟨loaded, -, stays⟩ := lodges.loads
  rcases stays.cut short with departs | ⟨limits, reached, stopped⟩ | unreturned
  · exact .inl departs
  · rw [Nat.le_antisymm (within limits) reached] at stopped
    exact .inr (.inl ⟨limits, stopped⟩)
  · exact .inr (.inr unreturned)

end Lodges

namespace Tours

variable {stays : List (Stay World)} (tours : n.Tours limit visits steps course stays result after)

include tours

theorem reports : after.reports = course.reports ++ stays.flatMap Stay.reports := by
  induction tours with
  | unfinished | nowhere => exact (List.append_nil _).symm
  | closed _ refused => rw [currentBlock_reports refused, List.flatMap_nil, List.append_nil]
  | moves lodges _ ih => rw [ih, lodges.reports, List.flatMap_cons, List.append_assoc]
  | returns lodges returned _ ih =>
    rw [ih, goBack_reports returned, lodges.reports, List.flatMap_cons, List.append_assoc]
  | finishes lodges stuck =>
    rw [goBack_reports stuck, lodges.reports, List.flatMap_singleton]
  | stops lodges | fails lodges | waits lodges => rw [lodges.reports, List.flatMap_singleton]

theorem lodged : ∀ stay ∈ stays, ∃ before out left, n.Lodges limit before stay out left := by
  induction tours with
  | unfinished | nowhere | closed => exact List.forall_mem_nil _
  | moves lodges _ ih => exact List.forall_mem_cons.mpr ⟨⟨_, _, _, lodges⟩, ih⟩
  | returns lodges _ _ ih => exact List.forall_mem_cons.mpr ⟨⟨_, _, _, lodges⟩, ih⟩
  | finishes lodges | stops lodges | fails lodges | waits lodges =>
    exact List.forall_mem_singleton.mpr ⟨_, _, _, lodges⟩

theorem cut (under : limit ≠ 0 → steps ≤ limit) : ∀ stay ∈ stays,
    stay.paces.length < stay.entries.length →
      stay.Departs ∨ stays.getLast? = some stay ∧ n.Breaks limit stay result after := by
  have next_under {steps next : Nat} {stay : Stay World} {turn : Turn} {left : Course World}
      (under : limit ≠ 0 → steps ≤ limit) (lodges : n.Lodges limit steps stay (.ok turn) left)
      (counts : turn.steps? = some next) (limits : limit ≠ 0) : next ≤ limit :=
    lodges.counted rfl counts ▸ lodges.within_limit under limits
  induction tours with
  | unfinished | nowhere | closed => exact List.forall_mem_nil _
  | moves lodges _ ih =>
    refine List.forall_mem_cons.mpr ⟨fun short => ?_, fun stay member short => ?_⟩
    · exact .inl ((lodges.cut under short).resolve_right nofun)
    · exact (ih (next_under under lodges rfl) stay member short).imp_right
        (And.imp_left List.mem_getLast?_cons)
  | returns lodges _ _ ih =>
    refine List.forall_mem_cons.mpr ⟨fun short => ?_, fun stay member short => ?_⟩
    · exact .inl ((lodges.cut under short).resolve_right nofun)
    · exact (ih (next_under under lodges rfl) stay member short).imp_right
        (And.imp_left List.mem_getLast?_cons)
  | finishes lodges | fails lodges =>
    refine List.forall_mem_singleton.mpr fun short => ?_
    exact .inl ((lodges.cut under short).resolve_right nofun)
  | stops lodges =>
    refine List.forall_mem_singleton.mpr fun short => ?_
    rcases lodges.cut under short with departs | ⟨limits, reached⟩ | ⟨exhausted, -⟩
    · exact .inl departs
    · cases reached
      exact .inr ⟨rfl, .inl ⟨limits, rfl⟩⟩
    · cases exhausted
  | waits lodges =>
    refine List.forall_mem_singleton.mpr fun short => ?_
    rcases lodges.cut under short with departs | ⟨-, reached⟩ | ⟨-, unreturned⟩
    · exact .inl departs
    · cases reached
    · exact .inr ⟨rfl, .inr ⟨rfl, unreturned⟩⟩

end Tours

/-! ## Whole walks -/

namespace Walks

variable {path : Option String} {stays : List (Stay World)}
  (walks : n.Walks limit path course stays result after)

include walks

theorem reports : after.reports = course.reports ++ stays.flatMap Stay.reports := by
  cases walks with
  | resumed tours => exact tours.reports
  | started started tours => rw [tours.reports, start_reports started]
  | refused refused => rw [start_reports refused, List.flatMap_nil, List.append_nil]

theorem lodged : ∀ stay ∈ stays, ∃ before out left, n.Lodges limit before stay out left := by
  cases walks with
  | resumed tours | started _ tours => exact tours.lodged
  | refused => exact List.forall_mem_nil _

theorem cut : ∀ stay ∈ stays, stay.paces.length < stay.entries.length →
    stay.Departs ∨ stays.getLast? = some stay ∧ n.Breaks limit stay result after := by
  cases walks with
  | resumed tours | started _ tours => exact tours.cut fun _ => Nat.zero_le _
  | refused => exact List.forall_mem_nil _

end Walks

/-- In each of its stays a walk dispatches the entries that it has loaded in their order, from the first
one on and each once, and reports them where the session then is. It leaves entries out only after a key
that departs, or where the whole walk breaks off. -/
theorem walk_in_order {path : Option String} (walked : n.walk path limit course = (result, after)) :
    ∃ stays, n.Walks limit path course stays result after ∧
      after.reports = course.reports ++ stays.flatMap Stay.reports ∧
      ∀ stay ∈ stays, (n.currentBlock stay.entered).1 = .ok stay.entries ∧
        (∀ pace ∈ stay.paces, pace.before.session.location? = some stay.location ∧
          (Act.attempt (n.dispatch pace.key pace.command) pace.before).1 = .ok pace.result) ∧
        stay.paces.map Pace.entry <+: stay.entries ∧
        (stay.paces.length < stay.entries.length →
          stay.Departs ∨ stays.getLast? = some stay ∧ n.Breaks limit stay result after) := by
  obtain ⟨stays, walks⟩ := walks_of_walk walked
  refine ⟨stays, walks, walks.reports, fun stay member => ?_⟩
  obtain ⟨before, out, left, lodges⟩ := walks.lodged stay member
  obtain ⟨loaded, opened, paced⟩ := lodges.loads
  refine ⟨congrArg Prod.fst opened, fun pace paced' => ?_, paced.in_order, walks.cut stay member⟩
  exact ⟨lodges.located_paces pace paced', paced.dispatched pace paced'⟩

namespace Sample

/-- The second block leads back to the first one. -/
def circuit : Course Script where
  session := Session.new .blocking
  world := { documents := [("/app", .ok {
    path := "/app"
    blocks := [
      ("main", [("greet", .obj [("display", .str "Hello")]), ("go", .str "link(.side)"),
        ("stay", .str "call(note)")]),
      ("side", [("look", .str "call(note)")])] })] }

/-- Of the three keys of the first block the last one is never reached: the second one leads away, and
the next time there are no steps left for it. -/
theorem walk_in_order_circuit :
    ∃ stays after, navigator.walk (some "/app") 4 circuit = (.ok (.ok ⟨.stepLimit 4, 4⟩), after) ∧
      navigator.Walks 4 (some "/app") circuit stays (.ok (.ok ⟨.stepLimit 4, 4⟩)) after ∧
      (stays.flatMap Stay.reports).map (fun step => (step.location.block, step.key)) =
        [("main", "greet"), ("main", "go"), ("side", "look"), ("main", "greet")] := by
  have stopped : (navigator.walk (some "/app") 4 circuit).1 = .ok (.ok ⟨.stepLimit 4, 4⟩) := by
    decide +kernel
  have told : (navigator.walk (some "/app") 4 circuit).2.reports.map
      (fun step => (step.location.block, step.key)) =
        [("main", "greet"), ("main", "go"), ("side", "look"), ("main", "greet")] := by
    decide +kernel
  obtain ⟨stays, walks, reports, -⟩ := walk_in_order (run_ok stopped)
  rw [reports] at told
  exact ⟨stays, _, run_ok stopped, walks, told⟩

end Sample

end Navigator

end Signpost
