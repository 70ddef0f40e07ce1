import Mathlib.Logic.Function.Basic
import Signpost.Proofs.Number.Reading
import Signpost.Proofs.Table.Ending
import Signpost.Proofs.Value.Same

/-! Tables in memory.

A store gives each table its rows, or the reason why there are none. What a request asks for is said
here by its name and its fields, and what it answers and leaves of the store without files. A request
that fails leaves the store as it is, and one that succeeds changes the table it names only. -/

namespace Signpost.Table

open Value (Same)

/-- The rows of each table, or why they cannot be read. -/
abbrev Store := String → Except Error (List Value)

/-- What a table may be called: letters and digits of ASCII, underscores and hyphens. -/
def Nameable (table : String) : Prop :=
  table ≠ "" ∧ ∀ c ∈ table.toList, c.isAlphanum = true ∨ c = '_' ∨ c = '-'

/-! ## What a request asks for -/

/-- The table that a request names; a model is another word for it. -/
inductive Names (record : Value) (table : String) : Prop
  | table (given : record.Has "table" (.str table))
  | model (lacks : record.Lacks "table") (given : record.Has "model" (.str table))

/-- The id that a request names, which is null where there is none. -/
inductive Identifies (record : Value) : Value → Prop
  | given {id : Value} (has : record.Has "id" id) : Identifies record id
  | missing (lacks : record.Lacks "id") : Identifies record .null

inductive Asks (name : String) (record : Value) : Action → Prop
  | list (named : name = "list") : Asks name record .list
  | get {id : Value} (named : name = "get") (of : Identifies record id) : Asks name record (.get id)
  | insert {row : Fields} (named : name = "insert") (given : record.Has "row" (.obj row)) :
      Asks name record (.insert row)
  | delete {id : Value} (named : name = "delete") (of : Identifies record id) :
      Asks name record (.delete id)

/-- Why a request asks for nothing. -/
inductive Refuses (name : String) (record : Value) : String → Prop
  | untabled (none : ∀ table, ¬Names record table) :
      Refuses name record "data action needs a 'table'"
  | rowless {table : String} (of : Names record table) (named : name = "insert")
      (none : ∀ row, ¬record.Has "row" (.obj row)) :
      Refuses name record "insert needs a 'row' object"
  | unknown {table : String} (of : Names record table)
      (none : name ∉ ["list", "get", "insert", "delete"]) :
      Refuses name record ("unknown data action '" ++ name ++ "'")

/-! ## What it answers -/

def HasId (row id : Value) : Prop := ∃ other, row.Has "id" other ∧ Same other id

/-- The ids that count when a new one is given are the integers that are not negative. -/
def IdIn (rows : List Value) (n : Nat) : Prop := ∃ row ∈ rows, row.Has "id" (.nat n)

/-- The id that is next: one where there are none yet, otherwise the one after the greatest. -/
inductive Next (rows : List Value) : Nat → Prop
  | first (none : ∀ n, ¬IdIn rows n) : Next rows 1
  | after {greatest : Nat} (among : IdIn rows greatest) (upper : ∀ n, IdIn rows n → n ≤ greatest) :
      Next rows (greatest + 1)

/-- The rows without those that have the id, and the number of those. -/
inductive Without (id : Value) : List Value → Nat → List Value → Prop
  | nil : Without id [] 0 []
  | removed {row : Value} {rows left : List Value} {n : Nat} (has : HasId row id)
      (others : Without id rows n left) : Without id (row :: rows) (n + 1) left
  | kept {row : Value} {rows left : List Value} {n : Nat} (lacks : ¬HasId row id)
      (others : Without id rows n left) : Without id (row :: rows) n (row :: left)

inductive Answers (rows : List Value) : Action → Value → List Value → Prop
  | listed : Answers rows .list (.arr rows) rows
  | got {id row : Value} {before after : List Value} (split : rows = before ++ row :: after)
      (has : HasId row id) (first : ∀ earlier ∈ before, ¬HasId earlier id) :
      Answers rows (.get id) row rows
  | inserted {row : Fields} {id : Value} (has : (Value.obj row).Has "id" id) :
      Answers rows (.insert row) (.obj row) (rows ++ [.obj row])
  | numbered {row : Fields} {number : Nat} (lacks : (Value.obj row).Lacks "id")
      (next : Next rows number) (fits : number < Nat.pow 2 64) :
      Answers rows (.insert row) (.obj (row ++ [("id", .nat number)]))
        (rows ++ [.obj (row ++ [("id", .nat number)])])
  | deleted {id : Value} {removed : Nat} {left : List Value} (without : Without id rows removed left) :
      Answers rows (.delete id) (.obj [("deleted", .nat removed)]) left

/-- What an action on a table of the store answers, and the store that is left. -/
inductive Does (store : Store) (table : String) : Action → Except Error Reply → Store → Prop
  | unreadable {action : Action} {error : Error} (lost : store table = .error error) :
      Does store table action (.error error) store
  | missed {id : Value} {rows : List Value} (read : store table = .ok rows)
      (none : ∀ row ∈ rows, ¬HasId row id) :
      Does store table (.get id) (.ok (.failed ("no row " ++ id.text ++ " in '" ++ table ++ "'"))) store
  | overflowed {row : Fields} {rows : List Value} {number : Nat} (read : store table = .ok rows)
      (lacks : (Value.obj row).Lacks "id") (next : Next rows number)
      (wide : Nat.pow 2 64 ≤ number) : Does store table (.insert row) (.error .overflow) store
  | served {action : Action} {rows left : List Value} {value : Value}
      (read : store table = .ok rows) (answers : Answers rows action value left) :
      Does store table action (.ok (.ok value)) (Function.update store table (.ok left))
  | faulted {action : Action} {rows left : List Value} {value : Value} {fault : FileFault}
      (read : store table = .ok rows) (answers : Answers rows action value left)
      (changes : left ≠ rows) (writing : ∀ path error, fault ≠ .read path error) :
      Does store table action (.error (.file fault)) store

inductive Serves (store : Store) (name : String) (record : Value) :
    Except Error Reply → Store → Prop
  | refused {message : String} (why : Refuses name record message) :
      Serves store name record (.ok (.failed message)) store
  | done {table : String} {action : Action} {answer : Except Error Reply} {after : Store}
      (named : Names record table) (asks : Asks name record action)
      (does : Does store table action answer after) : Serves store name record answer after

/-- The answers to requests in their order, and the store that is left. -/
inductive ServesAll : Store → List (String × Value) → List (Except Error Reply) → Store → Prop
  | nil {store : Store} : ServesAll store [] [] store
  | cons {store middle after : Store} {name : String} {record : Value} {answer : Except Error Reply}
      {later : List (String × Value)} {answers : List (Except Error Reply)}
      (here : Serves store name record answer middle) (others : ServesAll middle later answers after) :
      ServesAll store ((name, record) :: later) (answer :: answers) after

variable {rows left : List Value} {record row id value : Value} {name table : String}
  {action : Action} {number : Nat}

/-! ## Requests -/

theorem nameable_iff : validName table = true ↔ Nameable table := by
  simp [validName, Nameable, or_assoc]

theorem names_iff : Names record table ↔ tableOf? record = some table := by
  have text_iff {value : Value} : value.text? = some table ↔ value = .str table := by
    cases value <;> simp [Value.text?]
  unfold tableOf?
  constructor
  · rintro (given | ⟨lacks, given⟩)
    · rw [Value.has_iff.mp given]
      rfl
    · rw [Value.lacks_iff.mp lacks, Value.has_iff.mp given]
      rfl
  · intro found
    obtain ⟨value, found, text⟩ := Option.bind_eq_some_iff.mp found
    obtain rfl := text_iff.mp text
    rcases Option.or_eq_some_iff.mp found with first | ⟨none, second⟩
    · exact .table (Value.has_iff.mpr first)
    · exact .model (Value.lacks_iff.mpr none) (Value.has_iff.mpr second)

theorem identifies_iff : Identifies record id ↔ (record.field? "id").getD .null = id := by
  constructor
  · rintro (has | lacks)
    · rw [Value.has_iff.mp has, Option.getD_some]
    · rw [Value.lacks_iff.mp lacks, Option.getD_none]
  · rintro rfl
    cases found : record.field? "id" with
    | some => exact .given (Value.has_iff.mpr found)
    | none => exact .missing (Value.lacks_iff.mpr found)

theorem asks_iff : Asks name record action ↔ actionOf name record = .ok action := by
  constructor
  · rintro (rfl | ⟨rfl, of⟩ | ⟨rfl, given⟩ | ⟨rfl, of⟩)
    · rfl
    · rw [actionOf, identifies_iff.mp of]
    · rw [actionOf, Value.has_iff.mp given]
    · rw [actionOf, identifies_iff.mp of]
  · intro known
    unfold actionOf at known
    dsimp only at known
    split at known
    · cases known
      exact .list rfl
    · cases known
      exact .get rfl (identifies_iff.mpr rfl)
    · split at known
      next given =>
        cases known
        exact .insert rfl (Value.has_iff.mpr given)
      next => cases known
    · cases known
      exact .delete rfl (identifies_iff.mpr rfl)
    · cases known

theorem refuses_of_actionOf {message : String} (of : Names record table)
    (unknown : actionOf name record = .error message) : Refuses name record message := by
  unfold actionOf at unknown
  dsimp only at unknown
  split at unknown
  · cases unknown
  · cases unknown
  · split at unknown
    next => cases unknown
    next none =>
      cases unknown
      exact .rowless of rfl fun row has => none row (Value.has_iff.mp has)
  · cases unknown
  next others =>
    cases unknown
    refine .unknown of fun member => ?_
    simp only [List.mem_cons, List.not_mem_nil, or_false] at member
    grind

theorem invoke_cases (directory name : String) (record : Value) :
    (∃ message, Refuses name record message ∧
      ∀ tree, invoke directory name record tree = (.ok (.failed message), tree)) ∨
      ∃ table action, Names record table ∧ Asks name record action ∧
        ∀ tree, invoke directory name record tree = run tree directory table action := by
  unfold invoke
  split
  next none =>
    refine .inl ⟨_, .untabled fun table names => ?_, fun _ => rfl⟩
    cases none.symm.trans (names_iff.mp names)
  next table found =>
    have names := names_iff.mpr found
    split
    next message unknown =>
      exact .inl ⟨message, refuses_of_actionOf names unknown, fun _ => rfl⟩
    next action known => exact .inr ⟨table, action, names, asks_iff.mpr known, fun _ => rfl⟩

theorem invoke_eq_run (names : Names record table) (asks : Asks name record action)
    (directory : String) (tree : FileTree) :
    invoke directory name record tree = run tree directory table action := by
  simp only [invoke, names_iff.mp names, asks_iff.mp asks]

/-! ## Rows with an id -/

theorem hasId_iff : hasId id row = true ↔ HasId row id := by
  unfold hasId HasId
  cases found : row.field? "id" with
  | none =>
    have lacks : row.Lacks "id" := Value.lacks_iff.mpr found
    exact ⟨nofun, fun ⟨other, has, _⟩ => absurd has (lacks other)⟩
  | some other =>
    have has : row.Has "id" other := Value.has_iff.mpr found
    rw [Value.same_iff]
    exact ⟨fun same => ⟨other, has, same⟩, fun ⟨_, has', same⟩ => has.unique has' ▸ same⟩

theorem hasId_eq_false_iff : hasId id row = false ↔ ¬HasId row id := by
  rw [← hasId_iff, Bool.not_eq_true]

theorem hasId_nat_iff : HasId row (.nat number) ↔ row.Has "id" (.nat number) := by
  constructor
  · rintro ⟨other, has, same⟩
    cases same
    exact has
  · exact fun has => ⟨_, has, .num _⟩

theorem find?_hasId_iff : rows.find? (hasId id) = some row ↔ HasId row id ∧
    ∃ before after, rows = before ++ row :: after ∧ ∀ earlier ∈ before, ¬HasId earlier id := by
  simp [List.find?_eq_some_iff_append, hasId_iff, hasId_eq_false_iff]

theorem without_filter (id : Value) (rows : List Value) :
    Without id rows (rows.countP (hasId id)) (rows.filter fun row => !hasId id row) := by
  induction rows with
  | nil => exact .nil
  | cons row rows ih =>
    cases has : hasId id row with
    | true =>
      rw [List.countP_cons_of_pos has, List.filter_cons_of_neg (by simp [has])]
      exact .removed (hasId_iff.mp has) ih
    | false =>
      rw [List.countP_cons_of_neg (by simp [has]), List.filter_cons_of_pos (by simp [has])]
      exact .kept (hasId_eq_false_iff.mp has) ih

theorem Without.unique {m n : Nat} {left' : List Value} (without : Without id rows m left)
    (without' : Without id rows n left') : m = n ∧ left = left' := by
  induction without generalizing n left' with
  | nil =>
    cases without'
    exact ⟨rfl, rfl⟩
  | removed has _ ih =>
    cases without' with
    | removed _ others =>
      obtain ⟨rfl, rfl⟩ := ih others
      exact ⟨rfl, rfl⟩
    | kept lacks => exact absurd has lacks
  | kept lacks _ ih =>
    cases without' with
    | removed has => exact absurd has lacks
    | kept _ others =>
      obtain ⟨rfl, rfl⟩ := ih others
      exact ⟨rfl, rfl⟩

theorem Without.length {n : Nat} (without : Without id rows n left) :
    n + left.length = rows.length := by
  induction without with
  | nil => rfl
  | removed _ _ ih | kept _ _ ih =>
    simp only [List.length_cons]
    omega

theorem Without.eq_of_zero (without : Without id rows 0 left) : left = rows := by
  generalize none : 0 = n at without
  induction without with
  | nil => rfl
  | removed => cases none
  | kept _ _ ih => rw [ih none]

/-! ## The next id -/

def ids (rows : List Value) : List Nat :=
  rows.filterMap fun row => (row.field? "id").bind Value.natural?

theorem mem_ids_iff : number ∈ ids rows ↔ IdIn rows number := by
  have natural_iff (value : Value) : value.natural? = some number ↔ value = .nat number := by
    cases value with
    | num n =>
      cases n with
      | int => simp [Value.natural?, Value.nat, Number.natural?_int_eq_some_iff]
      | real => simp [Value.natural?, Value.nat, Number.natural?]
    | _ => simp [Value.natural?, Value.nat]
  simp only [ids, List.mem_filterMap, Option.bind_eq_some_iff, natural_iff, exists_eq_right, IdIn,
    Value.has_iff]

theorem Next.unique {other : Nat} (next : Next rows number) (next' : Next rows other) :
    number = other := by
  cases next with
  | first none =>
    cases next' with
    | first => rfl
    | after among => exact absurd among (none _)
  | after among upper =>
    cases next' with
    | first none => exact absurd among (none _)
    | after among' upper' =>
      rw [Nat.le_antisymm (upper' _ among) (upper _ among')]

theorem exists_next (rows : List Value) : ∃ number, Next rows number ∧
    nextId? rows = if number < Nat.pow 2 64 then some number else none := by
  unfold nextId?
  split
  next greatest most =>
    obtain ⟨among, upper⟩ := List.max?_eq_some_iff.mp most
    refine ⟨greatest + 1, .after (mem_ids_iff.mp among) fun n there => ?_, rfl⟩
    exact upper n (mem_ids_iff.mpr there)
  next none =>
    have empty : ids rows = [] := List.max?_eq_none_iff.mp none
    refine ⟨1, .first fun n there => ?_, rfl⟩
    rw [← mem_ids_iff, empty] at there
    cases there

theorem next_of_nextId? (given : nextId? rows = some number) : Next rows number := by
  obtain ⟨other, next, same⟩ := exists_next rows
  rw [given] at same
  split at same <;> cases same
  exact next

/-! ## Effects -/

/-- What an action does to the rows of a table, unless the next id overflows. -/
inductive Works (table : String) (rows : List Value) : Action → Option Effect → Prop
  | overflowed {row : Fields} {number : Nat} (lacks : (Value.obj row).Lacks "id")
      (next : Next rows number) (wide : Nat.pow 2 64 ≤ number) : Works table rows (.insert row) none
  | missed {id : Value} (absent : ∀ row ∈ rows, ¬HasId row id) :
      Works table rows (.get id)
        (some ⟨.failed ("no row " ++ id.text ++ " in '" ++ table ++ "'"), none⟩)
  | looked {action : Action} {value : Value} (answers : Answers rows action value rows) :
      Works table rows action (some ⟨.ok value, none⟩)
  | changed {action : Action} {value : Value} {left : List Value}
      (answers : Answers rows action value left) (changes : left ≠ rows) :
      Works table rows action (some ⟨.ok value, some left⟩)

theorem get_works (table : String) (rows : List Value) (id : Value) :
    Works table rows (.get id) (Action.effect? table rows (.get id)) := by
  simp only [Action.effect?]
  split
  next row found =>
    obtain ⟨has, before, after, split, first⟩ := find?_hasId_iff.mp found
    exact .looked (.got split has first)
  next none =>
    refine .missed fun row member has => ?_
    exact List.find?_eq_none.mp none row member (hasId_iff.mpr has)

theorem insert_works (table : String) (rows : List Value) (row : Fields) :
    Works table rows (.insert row) (Action.effect? table rows (.insert row)) := by
  have longer (new : Value) : rows ++ [new] ≠ rows := by simp
  simp only [Action.effect?, withId?]
  cases found : (Value.obj row).field? "id" with
  | some id =>
    have has : Fields.has row "id" = true := Option.isSome_of_eq_some found
    rw [if_pos has]
    exact .changed (.inserted (Value.has_iff.mpr found)) (longer _)
  | none =>
    have lacks : (Value.obj row).Lacks "id" := Value.lacks_iff.mpr found
    have hasNot : ¬Fields.has row "id" = true := by
      rw [Fields.has, show Fields.get? row "id" = none from found]
      exact Bool.false_ne_true
    obtain ⟨number, next, same⟩ := exists_next rows
    rw [if_neg hasNot, same]
    split
    next fits => exact .changed (.numbered lacks next fits) (longer _)
    next wide => exact .overflowed lacks next (Nat.le_of_not_lt wide)

theorem delete_works (table : String) (rows : List Value) (id : Value) :
    Works table rows (.delete id) (Action.effect? table rows (.delete id)) := by
  have without := without_filter id rows
  have total := without.length
  simp only [Action.effect?]
  generalize rows.filter (fun row => !hasId id row) = kept at without total ⊢
  rw [show rows.length - kept.length = rows.countP (hasId id) by omega]
  generalize rows.countP (hasId id) = removed at without total ⊢
  split
  next none =>
    subst none
    obtain rfl := without.eq_of_zero
    exact .looked (.deleted without)
  next some =>
    refine .changed (.deleted without) fun same => some ?_
    rw [same] at total
    omega

/-- An action answers as on a table in memory and leaves the same rows, or it asks for a row that is
not there, or it finds no id for the row that it brings. -/
theorem effect?_works (table : String) (rows : List Value) (action : Action) :
    Works table rows action (action.effect? table rows) := by
  cases action with
  | list => exact .looked .listed
  | get id => exact get_works table rows id
  | insert row => exact insert_works table rows row
  | delete id => exact delete_works table rows id

section Effect

variable {store : Store} (read : store table = .ok rows)

include read

theorem does_of_no_effect (none : action.effect? table rows = none) :
    Does store table action (.error .overflow) store := by
  have works := effect?_works table rows action
  rw [none] at works
  cases works with
  | overflowed lacks next wide => exact .overflowed read lacks next wide

theorem does_of_reply {reply : Reply} (same : action.effect? table rows = some ⟨reply, none⟩) :
    Does store table action (.ok reply) store := by
  have works := effect?_works table rows action
  rw [same] at works
  cases works with
  | missed absent => exact .missed read absent
  | looked answers =>
    have served := Does.served read answers
    rwa [← read, Function.update_eq_self] at served

end Effect

theorem answers_of_change {reply : Reply}
    (changes : action.effect? table rows = some ⟨reply, some left⟩) :
    ∃ value, reply = .ok value ∧ Answers rows action value left ∧ left ≠ rows := by
  have works := effect?_works table rows action
  rw [changes] at works
  cases works with
  | changed answers different => exact ⟨_, rfl, answers, different⟩

/-! ## One answer

A request is answered in one way only, unless writing fails. -/

/-- The answer reports no fault of writing. -/
def Undisturbed (answer : Except Error Reply) : Prop :=
  ∀ fault, answer = .error (.file fault) → ∃ path error, fault = .read path error

theorem Names.unique {other : String} (names : Names record table) (names' : Names record other) :
    table = other :=
  Option.some.inj ((names_iff.mp names).symm.trans (names_iff.mp names'))

theorem Asks.unique {other : Action} (asks : Asks name record action)
    (asks' : Asks name record other) : action = other :=
  Except.ok.inj ((asks_iff.mp asks).symm.trans (asks_iff.mp asks'))

theorem Refuses.not_asks {message : String} (refuses : Refuses name record message)
    (names : Names record table) : ¬Asks name record action := by
  intro asks
  cases refuses with
  | untabled none => exact none table names
  | rowless _ named none =>
    subst named
    cases asks with
    | insert _ given => exact none _ given
    | list named | get named | delete named => exact absurd named (by decide)
  | unknown _ none => cases asks <;> simp_all

theorem Refuses.unique {message other : String} (refuses : Refuses name record message)
    (refuses' : Refuses name record other) : message = other := by
  cases refuses with
  | untabled none =>
    cases refuses' with
    | untabled => rfl
    | rowless of | unknown of => exact absurd of (none _)
  | rowless of named =>
    cases refuses' with
    | untabled none => exact absurd of (none _)
    | rowless => rfl
    | unknown _ none => simp [named] at none
  | unknown of none =>
    cases refuses' with
    | untabled none => exact absurd of (none _)
    | rowless _ named => simp [named] at none
    | unknown => rfl

theorem Answers.unique {other : Value} {left' : List Value} (answers : Answers rows action value left)
    (answers' : Answers rows action other left') : value = other ∧ left = left' := by
  cases answers with
  | listed =>
    cases answers'
    exact ⟨rfl, rfl⟩
  | got split has first =>
    cases answers' with
    | got split' has' first' =>
      have found := find?_hasId_iff.mpr ⟨has, _, _, split, first⟩
      have found' := find?_hasId_iff.mpr ⟨has', _, _, split', first'⟩
      exact ⟨Option.some.inj (found.symm.trans found'), rfl⟩
  | inserted has =>
    cases answers' with
    | inserted => exact ⟨rfl, rfl⟩
    | numbered lacks => exact absurd has (lacks _)
  | numbered lacks next =>
    cases answers' with
    | inserted has => exact absurd has (lacks _)
    | numbered _ next' =>
      obtain rfl := next.unique next'
      exact ⟨rfl, rfl⟩
  | deleted without =>
    cases answers' with
    | deleted without' =>
      obtain ⟨rfl, rfl⟩ := without.unique without'
      exact ⟨rfl, rfl⟩

theorem Answers.exists_hasId (answers : Answers rows (.get id) value left) :
    ∃ row ∈ rows, HasId row id := by
  cases answers with
  | got split has => exact ⟨value, split ▸ by simp, has⟩

theorem Answers.next_fits {row : Fields} (answers : Answers rows (.insert row) value left)
    (lacks : (Value.obj row).Lacks "id") (next : Next rows number) : number < Nat.pow 2 64 := by
  cases answers with
  | inserted has => exact absurd has (lacks _)
  | numbered _ next' fits => exact next.unique next' ▸ fits

theorem not_undisturbed {fault : FileFault} (writing : ∀ path error, fault ≠ .read path error) :
    ¬Undisturbed (.error (.file fault)) := by
  intro calm
  obtain ⟨path, error, same⟩ := calm fault rfl
  exact writing path error same

/-- Where the rows have an answer to an action, there is no other. -/
theorem Does.of_answers {store after : Store} {answer : Except Error Reply}
    (does : Does store table action answer after) (calm : Undisturbed answer)
    (read : store table = .ok rows) (answers : Answers rows action value left) :
    answer = .ok (.ok value) ∧ after = Function.update store table (.ok left) := by
  cases does with
  | unreadable lost => cases read.symm.trans lost
  | missed read' absent =>
    obtain rfl := Except.ok.inj (read.symm.trans read')
    obtain ⟨row, member, has⟩ := answers.exists_hasId
    exact absurd has (absent row member)
  | overflowed read' lacks next wide =>
    obtain rfl := Except.ok.inj (read.symm.trans read')
    exact absurd (answers.next_fits lacks next) (Nat.not_lt.mpr wide)
  | served read' answers' =>
    obtain rfl := Except.ok.inj (read.symm.trans read')
    obtain ⟨rfl, rfl⟩ := answers'.unique answers
    exact ⟨rfl, rfl⟩
  | faulted _ _ _ writing => exact absurd calm (not_undisturbed writing)

theorem Does.unique {store after after' : Store} {answer answer' : Except Error Reply}
    (does : Does store table action answer after) (does' : Does store table action answer' after')
    (calm : Undisturbed answer) (calm' : Undisturbed answer') : answer = answer' ∧ after = after' := by
  cases does with
  | unreadable lost =>
    cases does' with
    | unreadable lost' =>
      obtain rfl := Except.error.inj (lost.symm.trans lost')
      exact ⟨rfl, rfl⟩
    | missed read | overflowed read | served read | faulted read => cases lost.symm.trans read
  | missed read absent =>
    cases does' with
    | unreadable lost => cases read.symm.trans lost
    | missed => exact ⟨rfl, rfl⟩
    | served read' answers => exact Does.of_answers (.missed read absent) calm read' answers
    | faulted _ _ _ writing => exact absurd calm' (not_undisturbed writing)
  | overflowed read lacks next wide =>
    cases does' with
    | unreadable lost => cases read.symm.trans lost
    | overflowed => exact ⟨rfl, rfl⟩
    | served read' answers => exact Does.of_answers (.overflowed read lacks next wide) calm read' answers
    | faulted _ _ _ writing => exact absurd calm' (not_undisturbed writing)
  | served read answers =>
    obtain ⟨rfl, rfl⟩ := does'.of_answers calm' read answers
    exact ⟨rfl, rfl⟩
  | faulted _ _ _ writing => exact absurd calm (not_undisturbed writing)

theorem Serves.unique {store after after' : Store} {answer answer' : Except Error Reply}
    (serves : Serves store name record answer after)
    (serves' : Serves store name record answer' after')
    (calm : Undisturbed answer) (calm' : Undisturbed answer') : answer = answer' ∧ after = after' := by
  cases serves with
  | refused why =>
    cases serves' with
    | refused why' =>
      obtain rfl := why.unique why'
      exact ⟨rfl, rfl⟩
    | done names asks => exact absurd asks (why.not_asks names)
  | done names asks does =>
    cases serves' with
    | refused why => exact absurd asks (why.not_asks names)
    | done names' asks' does' =>
      obtain rfl := names.unique names'
      obtain rfl := asks.unique asks'
      exact does.unique does' calm calm'

theorem ServesAll.unique {store after after' : Store} {requests : List (String × Value)}
    {answers answers' : List (Except Error Reply)} (serves : ServesAll store requests answers after)
    (serves' : ServesAll store requests answers' after') (calm : ∀ answer ∈ answers, Undisturbed answer)
    (calm' : ∀ answer ∈ answers', Undisturbed answer) : answers = answers' ∧ after = after' := by
  induction serves generalizing answers' with
  | nil =>
    cases serves'
    exact ⟨rfl, rfl⟩
  | cons here _ ih =>
    cases serves' with
    | cons here' others' =>
      obtain ⟨calm, calmLater⟩ := List.forall_mem_cons.mp calm
      obtain ⟨calm', calmLater'⟩ := List.forall_mem_cons.mp calm'
      obtain ⟨rfl, rfl⟩ := here.unique here' calm calm'
      obtain ⟨rfl, rfl⟩ := ih others' calmLater calmLater'
      exact ⟨rfl, rfl⟩

end Signpost.Table
