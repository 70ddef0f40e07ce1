import Signpost.Command.Classify
import Signpost.Key

/-! What values are read as.

Texts can always be read, if only as plain text, and only a list is read as a sequence. A record with
several action keys is no command, but under the auto-menu mark the field of a menu is looked for
first, and what else there is does not count. -/

namespace Signpost

variable {items : List Value} {command : Command}

/-- A command that is made of others: a menu of items, or a sequence of elements. -/
def Command.isComposite : Command → Bool
  | .menu _ | .sequence _ => true
  | _ => false

theorem Instruction.isComposite_of_apply {verb : Verb} {inner : List Char}
    {arguments : List (List Char)} (applied : apply verb inner arguments = .ok command) :
    command.isComposite = false := by
  cases verb with
  | function =>
    cases applied
    rfl
  | run =>
    simp only [apply] at applied
    split at applied <;> cases applied
    rfl
  | call =>
    cases arguments with
    | nil => cases applied
    | cons name arguments =>
      simp only [apply] at applied
      split at applied <;> cases applied
      rfl
  | link | openResource | readResource =>
    simp only [apply] at applied
    split at applied <;> cases applied
    rfl

theorem Instruction.isComposite_read (text : String) : (read text).isComposite = false := by
  unfold read
  split
  next => rfl
  next verb rest _ =>
    extract_lets result
    cases ended : result with
    | error => rfl
    | ok command =>
      unfold result at ended
      cases inside : body rest with
      | error => simp [bind, Except.bind, inside] at ended
      | ok inner =>
        cases found : splitArguments inner with
        | error => simp [bind, Except.bind, inside, found] at ended
        | ok arguments =>
          simp only [bind, Except.bind, inside, found] at ended
          exact isComposite_of_apply ended

namespace Command

/-- The text of a menu item can always be read as a command. -/
theorem classify_str_ne_error (text : String) (error : CommandError) :
    classify (.str text) ≠ .error error := by
  simp only [classify]
  split <;> nofun

theorem isComposite_of_classify_str {text : String} (read : classify (.str text) = .ok command) :
    command.isComposite = false := by
  simp only [classify] at read
  split at read
  next =>
    cases read
    rfl
  next =>
    cases read
    exact Instruction.isComposite_read text

theorem ofAction_ne_sequence (key : String) (value : Value) (record : Fields) :
    ofAction key value record ≠ .ok (.sequence items) := by
  unfold ofAction
  split
  next => nofun
  next =>
    split
    next =>
      unfold ofFunction
      split
      next =>
        split
        next => split <;> nofun
        next => split <;> nofun
      next =>
        split
        next => split <;> nofun
        next => nofun
      next => nofun
    next => cases target "link" value <;> nofun
    next => cases target "open" value <;> nofun
    next => cases target "read" value <;> nofun
    all_goals nofun

theorem eq_arr_of_classify {value : Value} (read : classify value = .ok (.sequence items)) :
    value = .arr items := by
  unfold classify at read
  split at read
  next => cases read
  next => cases read
  next => cases read
  next => cases read
  next => cases isComposite_of_classify_str read
  next => cases read
  next => exact congrArg Value.arr (Command.sequence.inj (Except.ok.inj read))
  next => cases read
  next record _ =>
    unfold ofRecord at read
    split at read
    next => split at read <;> cases read
    next key value _ => exact absurd read (ofAction_ne_sequence key value record)
    next => cases read

/-- The record has several keys that choose an action. -/
def Ambiguous (record : Fields) : Prop :=
  ∃ one other, one ≠ other ∧ (one ∈ Fields.names record ∧ isActionKey one = true) ∧
    other ∈ Fields.names record ∧ isActionKey other = true

def actions (record : Fields) : Fields := record.filter fun (key, _) => isActionKey key

variable {record : Fields}

theorem mem_actions {key : String} (present : key ∈ Fields.names record)
    (chooses : isActionKey key = true) : ∃ value, (key, value) ∈ actions record := by
  obtain ⟨⟨key, value⟩, member, rfl⟩ := List.mem_map.mp present
  exact ⟨value, List.mem_filter.mpr ⟨member, chooses⟩⟩

/-- Whatever the keys are, and in whatever order they stand. -/
theorem classify_ambiguous (ambiguous : Ambiguous record) :
    classify (.obj record) = .error (.ambiguous (Fields.names (actions record))) := by
  obtain ⟨one, other, different, ⟨first, choosesOne⟩, second, choosesOther⟩ := ambiguous
  obtain ⟨value, here⟩ := mem_actions first choosesOne
  obtain ⟨value', there⟩ := mem_actions second choosesOther
  have read : ofRecord record = .error (.ambiguous (Fields.names (actions record))) := by
    unfold ofRecord
    split
    next none =>
      rw [show actions record = [] from none] at here
      cases here
    next only =>
      rw [show actions record = [_] from only, List.mem_singleton] at here there
      cases here
      cases there
      exact absurd rfl different
    next => rfl
  cases record with
  | nil => cases first
  | cons => exact read

end Command

namespace MenuSpec

variable {record : Fields}

/-- Whether a menu is all that is read of a record with several action keys. -/
def Overrides (key : String) (record : Fields) : Prop :=
  (Key.read key).2.autoMenu = true ∧ Fields.has record "menu" = true

def menuFields (record : Fields) : Fields :=
  record.filter fun (key, _) => ["menu", "title", "allow_back", "multi"].contains key

theorem get?_menuFields {name : String}
    (known : ["menu", "title", "allow_back", "multi"].contains name = true) :
    Fields.get? (menuFields record) name = Fields.get? record name := by
  unfold Fields.get? menuFields
  induction record with
  | nil => rfl
  | cons field record ih =>
    obtain ⟨key, value⟩ := field
    by_cases same : name = key
    · subst same
      rw [List.filter_cons_of_pos (by simpa using known)]
      simp
    · have other : (name == key) = false := by simpa using same
      rw [List.lookup_cons, other]
      by_cases kept : ["menu", "title", "allow_back", "multi"].contains key = true
      · rw [List.filter_cons_of_pos (by simpa using kept), List.lookup_cons, other]
        exact ih
      · rw [List.filter_cons_of_neg (by simpa using kept)]
        exact ih

theorem ofRecord_menuFields : ofRecord (menuFields record) = ofRecord record := by
  unfold ofRecord Fields.text? Fields.bool?
  rw [get?_menuFields (by decide), get?_menuFields (by decide), get?_menuFields (by decide),
    get?_menuFields (by decide)]

theorem has_menuFields : Fields.has (menuFields record) "menu" = Fields.has record "menu" :=
  congrArg Option.isSome (get?_menuFields (by decide))

def marked? (key : String) (record : Fields) : Option MenuSpec :=
  if (Key.read key).2.autoMenu then ofMarked? (.obj record) else none

theorem marked?_of_overrides {key : String} (overrides : Overrides key record) :
    marked? key record = some (ofRecord record) := by
  unfold marked?
  rw [if_pos overrides.1]
  exact if_pos overrides.2

theorem marked?_of_ambiguous {key : String} (ambiguous : Command.Ambiguous record)
    (refused : ¬Overrides key record) : marked? key record = none := by
  unfold marked?
  split
  next mark =>
    obtain ⟨one, _, _, ⟨present, chooses⟩, _⟩ := ambiguous
    have absent : Fields.has record "menu" = false :=
      Bool.eq_false_iff.mpr fun menu => refused ⟨mark, menu⟩
    have acts : (Fields.names record).any (fun key =>
        Command.isActionKey key || Command.isDataKey key) = true :=
      List.any_eq_true.mpr ⟨one, present, by rw [chooses]; rfl⟩
    unfold ofMarked?
    simp only [absent, Bool.false_eq_true, if_false, acts, Bool.or_true, if_true]
  next => rfl

end MenuSpec

end Signpost
