import Signpost.Proofs.Command
import Signpost.Proofs.Navigator.Action
import Signpost.Proofs.Navigator.Composite
import Signpost.Proofs.Navigator.NonBlocking

/-! Composites part by part.

The elements of a sequence and the items of a selection are launched one after the other, each where
the one before has left the course, until one of them halts or comes to anything but a value or
nothing; what it comes to is what the whole comes to. Where none does, the values of all parts are
listed in order. So a composite can be cut in two anywhere: the second part goes on where the first
one ends, and the values of both are listed. -/

namespace Signpost

namespace Navigator

open Act Session

variable {World : Type} {part : Act World Outcome} {parts rest : List (Act World Outcome)}
  {course mid after : Course World} {outcome : Outcome} {new values values' : List Value}
  {result : Except Halt Outcome}

/-! ## Parts -/

/-- The values that a part adds to those of its composite if the next part is launched after it. -/
inductive Adds : Outcome → List Value → Prop
  | empty : Adds .empty []
  | done (value : Value) : Adds (.done value) [value]

/-- After this no part is launched. -/
inductive Stops : Except Halt Outcome → Prop
  | halted (halt : Halt) : Stops (.error halt)
  | failed (failure : Failure) : Stops (.ok (.failed failure))
  | back : Stops (.ok .back)
  | abort : Stops (.ok .abort)
  | pending (prompt : Prompt) : Stops (.ok (.pending prompt))
  | relocated (location : Location) : Stops (.ok (.relocated location))

/-- What a composite comes to whose parts have added these values. -/
inductive Sums : List Value → Outcome → Prop
  | empty : Sums [] .empty
  | done (value : Value) (values : List Value) :
      Sums (value :: values) (.done (.arr (value :: values)))

/-- The parts are launched in order, each once, none of them stops the composite, and they add these
values. -/
inductive Goes : Course World → List (Act World Outcome) → List Value → Course World → Prop where
  | nil (course : Course World) : Goes course [] [] course
  | cons {course mid after : Course World} {part : Act World Outcome}
      {parts : List (Act World Outcome)} {outcome : Outcome} {new values : List Value} :
      part course = (.ok outcome, mid) → Adds outcome new → Goes mid parts values after →
        Goes course (part :: parts) (new ++ values) after

/-- How a composite of these parts ends: all parts have gone through and their values are listed, or
it comes to what the first part that stops it comes to. -/
inductive Completes (parts : List (Act World Outcome)) (course : Course World) :
    Except Halt Outcome → Course World → Prop where
  | through {values : List Value} {outcome : Outcome} {after : Course World} :
      Goes course parts values after → Sums values outcome →
        Completes parts course (.ok outcome) after
  | stopped {before rest : List (Act World Outcome)} {part : Act World Outcome}
      {values : List Value} {mid after : Course World} {result : Except Halt Outcome} :
      parts = before ++ part :: rest → Goes course before values mid →
        part mid = (result, after) → Stops result → Completes parts course result after

theorem adds_or_stops (outcome : Outcome) : (∃ new, Adds outcome new) ∨ Stops (.ok outcome) := by
  cases outcome with
  | empty => exact .inl ⟨[], .empty⟩
  | done value => exact .inl ⟨[value], .done value⟩
  | failed failure => exact .inr (.failed failure)
  | back => exact .inr .back
  | abort => exact .inr .abort
  | pending prompt => exact .inr (.pending prompt)
  | relocated location => exact .inr (.relocated location)

theorem exists_sums (values : List Value) : ∃ outcome, Sums values outcome := by
  cases values with
  | nil => exact ⟨_, .empty⟩
  | cons value values => exact ⟨_, .done value values⟩

theorem Goes.append (goes : Goes course parts values mid) (later : Goes mid rest values' after) :
    Goes course (parts ++ rest) (values ++ values') after := by
  induction goes with
  | nil => exact later
  | cons launched adds _ ih =>
    rw [List.append_assoc]
    exact .cons launched adds (ih later)

theorem exists_completes (parts : List (Act World Outcome)) (course : Course World) :
    ∃ result after, Completes parts course result after := by
  induction parts generalizing course with
  | nil => exact ⟨_, _, .through (.nil course) .empty⟩
  | cons part parts ih =>
    rcases launched : part course with ⟨halt | outcome, mid⟩
    · exact ⟨_, _, .stopped (List.nil_append _).symm (.nil course) launched (.halted halt)⟩
    rcases adds_or_stops outcome with ⟨new, adds⟩ | stops
    · obtain ⟨result, after, completes⟩ := ih mid
      cases completes with
      | @through values _ _ later =>
        obtain ⟨whole, sums⟩ := exists_sums (new ++ values)
        exact ⟨_, _, .through (.cons launched adds later) sums⟩
      | stopped split earlier stopped stops =>
        have split' := congrArg (part :: ·) split
        exact ⟨_, _, .stopped split' (.cons launched adds earlier) stopped stops⟩
    · exact ⟨_, _, .stopped (List.nil_append _).symm (.nil course) launched stops⟩

/-! ## Launching parts -/

theorem Adds.goes (adds : Adds outcome new) : outcome.interrupts = false := by
  cases adds <;> rfl

theorem Adds.collect_eq (adds : Adds outcome new) (values : List Value) :
    collect values outcome = values ++ new := by
  cases adds with
  | empty => exact (List.append_nil values).symm
  | done => rfl

theorem Stops.interrupts (stops : Stops (.ok outcome)) : outcome.interrupts = true := by
  cases stops <;> rfl

theorem Sums.eq_collected (sums : Sums values outcome) : outcome = collected values := by
  cases sums <;> rfl

/-- Launches parts in order, with values that have been collected before. -/
def inOrder (values : List Value) (parts : List (Act World Outcome)) : Act World Outcome :=
  collectAll id values parts

theorem collectAll_eq_inOrder {α : Type} (launch : α → Act World Outcome) (values : List Value)
    (parts : List α) : collectAll launch values parts = inOrder values (parts.map launch) := by
  induction parts generalizing values with
  | nil => rfl
  | cons part parts ih =>
    unfold inOrder at ih ⊢
    simp only [collectAll, List.map_cons, ih, id_eq]

theorem inOrder_cons (values : List Value) (part : Act World Outcome)
    (parts : List (Act World Outcome)) :
    inOrder values (part :: parts) = (part >>= fun outcome =>
      if outcome.interrupts then pure outcome else inOrder (collect values outcome) parts) := rfl

theorem Goes.inOrder_append (goes : Goes course parts new mid) (values : List Value)
    (rest : List (Act World Outcome)) :
    inOrder values (parts ++ rest) course = inOrder (values ++ new) rest mid := by
  induction goes generalizing values with
  | nil => rw [List.nil_append, List.append_nil]
  | cons launched adds _ ih =>
    rw [List.cons_append, inOrder_cons, bind_ok launched, adds.goes, adds.collect_eq,
      ← List.append_assoc, ← ih]
    rfl

theorem inOrder_of_stops (launched : part course = (result, after)) (stops : Stops result)
    (values : List Value) (rest : List (Act World Outcome)) :
    inOrder values (part :: rest) course = (result, after) := by
  rw [inOrder_cons]
  cases result with
  | error halt => exact bind_error launched
  | ok outcome =>
    rw [bind_ok launched, stops.interrupts]
    rfl

theorem inOrder_of_completes (completes : Completes parts course result after) :
    inOrder [] parts course = (result, after) := by
  cases completes with
  | through goes sums =>
    have whole := goes.inOrder_append [] []
    rw [List.append_nil, List.nil_append] at whole
    rw [whole, sums.eq_collected]
    rfl
  | stopped split earlier launched stops =>
    rw [split, earlier.inOrder_append]
    exact inOrder_of_stops launched stops _ _

theorem inOrder_iff : inOrder [] parts course = (result, after) ↔
    Completes parts course result after := by
  refine ⟨fun ran => ?_, inOrder_of_completes⟩
  -- every composite completes in some way, and it runs in no other
  obtain ⟨result', after', completes⟩ := exists_completes parts course
  cases ran.symm.trans (inOrder_of_completes completes)
  exact completes

/-! ## Cutting composites in two -/

/-- How two composites run one behind the other: where the first is stopped, the second is not begun;
else it goes on where the first has ended, and if it is not stopped either, the values of both are
listed. -/
inductive Continues (first second : Act World Outcome) (course : Course World) :
    Except Halt Outcome × Course World → Prop where
  | stopped {result : Except Halt Outcome} {after : Course World} :
      first course = (result, after) → Stops result → Continues first second course (result, after)
  | stoppedLater {values : List Value} {outcome : Outcome} {result : Except Halt Outcome}
      {mid after : Course World} :
      first course = (.ok outcome, mid) → Sums values outcome →
        second mid = (result, after) → Stops result → Continues first second course (result, after)
  | through {values values' : List Value} {outcome later whole : Outcome}
      {mid after : Course World} :
      first course = (.ok outcome, mid) → Sums values outcome →
        second mid = (.ok later, after) → Sums values' later →
          Sums (values ++ values') whole → Continues first second course (.ok whole, after)

theorem inOrder_continues (first second : List (Act World Outcome)) (course : Course World) :
    Continues (inOrder [] first) (inOrder [] second) course
      (inOrder [] (first ++ second) course) := by
  obtain ⟨result, mid, completes⟩ := exists_completes first course
  have began := inOrder_of_completes completes
  cases completes with
  | stopped split earlier launched stops =>
    subst split
    rw [List.append_assoc, List.cons_append, inOrder_iff.mpr (.stopped rfl earlier launched stops)]
    exact .stopped began stops
  | through goes sums =>
    obtain ⟨result, after, completes⟩ := exists_completes second mid
    have went := inOrder_of_completes completes
    cases completes with
    | stopped split earlier launched stops =>
      have split' := (congrArg (first ++ ·) split).trans (List.append_assoc first _ _).symm
      rw [inOrder_iff.mpr (.stopped split' (goes.append earlier) launched stops)]
      exact .stoppedLater began sums went stops
    | @through values' _ _ goes' sums' =>
      obtain ⟨whole, sums''⟩ := exists_sums (_ ++ values')
      rw [inOrder_iff.mpr (.through (goes.append goes') sums'')]
      exact .through began sums went sums' sums''

/-! ## Elements of sequences -/

section Elements

variable (n : Navigator World) (nested : String → Value → Act World Outcome) (key : String)

def elementKey (key : String) (index : Nat) : String := key ++ "[" ++ toString index ++ "]"

/-- Launches an element as the command that it is read as, which may be a sequence again. -/
def element (index : Nat) (value : Value) : Act World Outcome :=
  match Command.classify value with
  | .error error => Act.refuse (.configuration (elementKey key index) error.message)
  | .ok command => do
      let session ← Act.session
      n.launchWith nested key (.plain session.mode) command

/-- The elements of a sequence as parts, the first of them with the number `start`. -/
def elements (start : Nat) (values : List Value) : List (Act World Outcome) :=
  values.mapIdx fun index value => n.element nested key (start + index) value

theorem elements_cons (start : Nat) (value : Value) (values : List Value) :
    n.elements nested key start (value :: values) =
      n.element nested key start value :: n.elements nested key (start + 1) values := by
  simp only [elements, List.mapIdx_cons, Nat.add_zero, Nat.add_assoc, Nat.add_comm 1]

theorem elements_append (start : Nat) (first second : List Value) :
    n.elements nested key start (first ++ second) =
      n.elements nested key start first ++ n.elements nested key (start + first.length) second := by
  simp only [elements, List.mapIdx_append, Nat.add_assoc, Nat.add_comm first.length]

theorem launchElement_eq_element (index : Nat) (value : Value) :
    n.launchElement nested key index value = n.element nested key index value := by
  unfold element
  by_cases composite : ∃ items, value = .arr items
  · obtain ⟨items, rfl⟩ := composite
    obtain ⟨command, classified, launches⟩ := n.classify_arr items
    unfold launchElement
    funext course
    rw [classified]
    dsimp only
    rw [bind_ok session_run, launches]
  · have leaf := not_exists.mp composite
    cases classified : Command.classify value with
    | error error => exact n.launchElement_of_error leaf classified key index
    | ok command =>
      have single (items : List Value) (same : command = .sequence items) : False :=
        leaf items (Command.eq_arr_of_classify (same ▸ classified))
      rw [n.launchElement_of_ok leaf classified]
      simp only [n.launchWith_of_not_sequence single]

theorem launchElements_eq_inOrder (start : Nat) (collected values : List Value) :
    n.launchElements nested key start collected values =
      inOrder collected (n.elements nested key start values) := by
  induction values generalizing start collected with
  | nil => rfl
  | cons value values ih =>
    rw [elements_cons, inOrder_cons, launchElements, launchElement_eq_element]
    simp only [ih]

/-- The two runs are the same, but for the number of an element that cannot be read. -/
inductive Renumbered (offset : Nat) :
    Except Halt Outcome × Course World → Except Halt Outcome × Course World → Prop where
  | same (run : Except Halt Outcome × Course World) : Renumbered offset run run
  | misread (index : Nat) (reason : String) (course : Course World) : Renumbered offset
      (.error (.refused (.configuration (elementKey key index) reason)), course)
      (.error (.refused (.configuration (elementKey key (offset + index)) reason)), course)

theorem elements_renumbered (offset start : Nat) (collected values : List Value)
    (course : Course World) :
    Renumbered key offset (inOrder collected (n.elements nested key start values) course)
      (inOrder collected (n.elements nested key (offset + start) values) course) := by
  induction values generalizing start collected course with
  | nil => exact .same _
  | cons value values ih =>
    rw [elements_cons, elements_cons, inOrder_cons, inOrder_cons]
    cases classified : Command.classify value with
    | error error =>
      -- a refusal ends both runs, so nothing behind it has to be compared
      have refused (index : Nat) : n.element nested key index value course =
          (.error (.refused (.configuration (elementKey key index) error.message)), course) := by
        rw [element, classified]
        rfl
      rw [bind_error (refused start), bind_error (refused (offset + start))]
      exact .misread start error.message course
    | ok command =>
      have same : n.element nested key (offset + start) value = n.element nested key start value := by
        rw [element, element, classified]
      rw [same]
      rcases launched : n.element nested key start value course with ⟨halt | outcome, mid⟩
      · rw [bind_error launched, bind_error launched]
        exact .same _
      · rw [bind_ok launched, bind_ok launched]
        cases outcome.interrupts with
        | true => exact .same _
        | false => exact ih (start + 1) _ mid

theorem Continues.renumbered {key : String} {offset : Nat} {first second second' : Act World Outcome}
    {run : Except Halt Outcome × Course World} (continues : Continues first second' course run)
    (each : ∀ course, Renumbered key offset (second course) (second' course)) :
    ∃ plain, Continues first second course plain ∧ Renumbered key offset plain run := by
  cases continues with
  | stopped began stops => exact ⟨_, .stopped began stops, .same _⟩
  | @stoppedLater _ _ _ mid _ began sums went stops =>
    have same := each mid
    rw [went] at same
    generalize plain : second mid = run at same
    cases same with
    | same => exact ⟨_, .stoppedLater began sums plain stops, .same _⟩
    | misread index reason => exact ⟨_, .stoppedLater began sums plain (.halted _), .misread ..⟩
  | @through _ _ _ _ _ mid _ began sums went sums' sums'' =>
    have same := each mid
    rw [went] at same
    generalize plain : second mid = run at same
    cases same with
    | same => exact ⟨_, .through began sums plain sums' sums'', .same _⟩

/-- Sequences and selections of several items launch their parts from left to right, each of them at
most once, up to the first that halts or comes to anything but a value or nothing, and come to what
that part comes to; else to the list of the values of all parts in order, or to nothing where there are
none. So they can be cut in two anywhere. -/
theorem composites_in_order (nested : String → Value → Act World Outcome) (key : String)
    (followUp : FollowUp) :
    (∀ items course result after,
      n.launchWith nested key followUp (.sequence items) course = (result, after) ↔
        Completes (n.elements nested key 0 items) course result after) ∧
    (∀ items course result after,
      n.select nested (.multi items) course = (result, after) ↔
        Completes (items.map (n.launchItem nested)) course result after) ∧
    (∀ first second course, ∃ run,
      Continues (n.launchWith nested key followUp (.sequence first))
        (n.launchWith nested key followUp (.sequence second)) course run ∧
      Renumbered key first.length run
        (n.launchWith nested key followUp (.sequence (first ++ second)) course)) ∧
    (∀ first second course,
      Continues (n.select nested (.multi first)) (n.select nested (.multi second)) course
        (n.select nested (.multi (first ++ second)) course)) := by
  have sequence (items : List Value) : n.launchWith nested key followUp (.sequence items) =
      inOrder [] (n.elements nested key 0 items) := n.launchElements_eq_inOrder nested key 0 [] items
  have selection (items : List Menu.Item) : n.select nested (.multi items) =
      inOrder [] (items.map (n.launchItem nested)) := collectAll_eq_inOrder _ [] items
  refine ⟨fun items course result after => ?_, fun items course result after => ?_,
    fun first second course => ?_, fun first second course => ?_⟩
  · rw [sequence]
    exact inOrder_iff
  · rw [selection]
    exact inOrder_iff
  · rw [sequence, sequence, sequence, elements_append]
    refine (inOrder_continues _ _ course).renumbered fun mid => ?_
    rw [Nat.zero_add]
    exact n.elements_renumbered nested key first.length 0 [] second mid
  · rw [selection, selection, selection, List.map_append]
    exact inOrder_continues _ _ course

end Elements

namespace Sample

def counter : Course Script where
  session := Session.new .nonBlocking
  world := {
    replies := [
      ((.functions, "count"), [.ok (.ok (.nat 1)), .ok (.ok (.nat 2)), .ok (.ok (.nat 3))]),
      ((.functions, "rest"), [.ok (.ok .null)]),
      ((.functions, "fail"), [.ok (.failed "busy")])] }

def request (name : String) : Request := ⟨.functions, name, .arr []⟩

def called (names : List String) : Course Script :=
  names.foldl (fun course name => navigator.asked (request name) course) counter

def keyless : String → Value → Act Script Outcome := fun _ _ => Act.exhaust

abbrev sequence (items : List Value) : Act Script Outcome :=
  navigator.launchWith keyless "all" (.plain .nonBlocking) (.sequence items)

def item (target : String) : Menu.Item := ⟨target, target, false⟩

abbrev selection (targets : List String) : Act Script Outcome :=
  navigator.select keyless (.multi (targets.map item))

theorem element_call (name : String) {text : String}
    (classified : Command.classify (.str text) = .ok (.call name [])) (index : Nat)
    (course : Course Script) : navigator.element keyless "all" index (.str text) course =
      (.ok (.ofReply (navigator.replyTo (request name) course)),
        navigator.asked (request name) course) := by
  rw [element, classified]
  exact (bind_ok session_run).trans (navigator.launchWith_of_request rfl _ _)

theorem item_call (name : String) {text : String} {course : Course Script}
    (classified : Command.classify (.str text) = .ok (.call name []))
    (nowhere : course.session.location? = none) :
    navigator.launchItem keyless (item text) course =
      (.ok (.ofReply (navigator.replyTo (request name) course)),
        navigator.asked (request name) course) := by
  rw [launchItem, item, if_neg Bool.false_ne_true]
  refine (bind_ok session_run).trans ?_
  rw [nowhere, classified]
  exact navigator.invoke_run _ _ _

theorem count_first : navigator.element keyless "all" 0 (.str "call(count)") counter =
    (.ok (.done (.nat 1)), called ["count"]) := element_call "count" rfl 0 counter

theorem count_nested : navigator.element keyless "all" 2 (.arr [.str "call(count)"])
    (called ["count", "rest"]) = (.ok (.done (.arr [.nat 2])), called ["count", "rest", "count"]) := by
  have again : navigator.element keyless "all" 0 (.str "call(count)") (called ["count", "rest"]) =
      (.ok (.done (.nat 2)), called ["count", "rest", "count"]) := element_call "count" rfl 0 _
  have whole : inOrder [] (navigator.elements keyless "all" 0 [.str "call(count)"])
      (called ["count", "rest"]) = (.ok (.done (.arr [.nat 2])), called ["count", "rest", "count"]) :=
    inOrder_of_completes (.through (.cons again (.done _) (.nil _)) (.done _ []))
  rw [← launchElement_eq_element]
  exact (congrFun (navigator.launchElements_eq_inOrder keyless "all" 0 [] _) _).trans whole

theorem goes_counts : Goes counter
    (navigator.elements keyless "all" 0
      [.str "call(count)", .str "call(rest)", .arr [.str "call(count)"]])
    [.nat 1, .arr [.nat 2]] (called ["count", "rest", "count"]) := by
  have rested : navigator.element keyless "all" 1 (.str "call(rest)") (called ["count"]) =
      (.ok .empty, called ["count", "rest"]) := element_call "rest" rfl 1 _
  exact .cons count_first (.done _) (.cons rested .empty (.cons count_nested (.done _) (.nil _)))

end Sample

open Sample in
/-- The values of a sequence are listed, a sequence that fails stops, and a selection is cut in two. -/
theorem composites_in_order_counts :
    sequence [.str "call(count)", .str "call(rest)", .arr [.str "call(count)"]] counter =
        (.ok (.done (.arr [.nat 1, .arr [.nat 2]])), called ["count", "rest", "count"]) ∧
      sequence [.str "call(count)", .str "call(fail)", .str "call(count)"] counter =
        (.ok (.failed ⟨.action, "busy"⟩), called ["count", "fail"]) ∧
      sequence [.str "call(rest)"] counter = (.ok .empty, called ["rest"]) ∧
      Continues (selection ["call(count)"]) (selection ["call(rest)", "call(count)"]) counter
        (.ok (.done (.arr [.nat 1, .nat 2])), called ["count", "rest", "count"]) := by
  obtain ⟨sequences, selections, -, cuts⟩ :=
    navigator.composites_in_order keyless "all" (.plain .nonBlocking)
  have failed : navigator.element keyless "all" 1 (.str "call(fail)") (called ["count"]) =
      (.ok (.failed ⟨.action, "busy"⟩), called ["count", "fail"]) := element_call "fail" rfl 1 _
  have rested : navigator.element keyless "all" 0 (.str "call(rest)") counter =
      (.ok .empty, called ["rest"]) := element_call "rest" rfl 0 _
  refine ⟨?_, ?_, ?_, ?_⟩
  · exact (sequences _ _ _ _).mpr (.through goes_counts (.done _ _))
  · have split : navigator.elements keyless "all" 0
        [.str "call(count)", .str "call(fail)", .str "call(count)"] =
      [navigator.element keyless "all" 0 (.str "call(count)")] ++
        navigator.element keyless "all" 1 (.str "call(fail)") ::
          navigator.elements keyless "all" 2 [.str "call(count)"] := rfl
    exact (sequences _ _ _ _).mpr
      (.stopped split (.cons count_first (.done _) (.nil _)) failed (.failed _))
  · exact (sequences _ _ _ _).mpr (.through (.cons rested .empty (.nil _)) .empty)
  · have first : navigator.launchItem keyless (item "call(count)") counter =
        (.ok (.done (.nat 1)), called ["count"]) := item_call "count" rfl rfl
    have second : navigator.launchItem keyless (item "call(rest)") (called ["count"]) =
        (.ok .empty, called ["count", "rest"]) := item_call "rest" rfl rfl
    have third : navigator.launchItem keyless (item "call(count)") (called ["count", "rest"]) =
        (.ok (.done (.nat 2)), called ["count", "rest", "count"]) := item_call "count" rfl rfl
    have ran : selection ["call(count)", "call(rest)", "call(count)"] counter =
        (.ok (.done (.arr [.nat 1, .nat 2])), called ["count", "rest", "count"]) :=
      (selections _ _ _ _).mpr (.through
        (.cons first (.done _) (.cons second .empty (.cons third (.done _) (.nil _)))) (.done _ _))
    exact ran ▸ cuts [item "call(count)"] [item "call(rest)", item "call(count)"] counter

end Navigator

end Signpost
