import Signpost.Proofs.Document.Launches
import Signpost.Proofs.Menu.Building

/-! Menus without items.

The check reports a menu whose source is empty as it is written. Building passes over entries that
cannot be used, so it also fails for a list of such entries alone, and of this the check says
nothing. -/

namespace Signpost.Check

open Menu (Entry entriesOf)
open Menu.Entry (Unusable)

def noItems : String := "menu has no items"

mutual

def menusIn : Value → List MenuSpec
  | .arr items => menusInAll items
  | value =>
      match Command.classify value with
      | .ok (.menu spec) => [spec]
      | _ => []

def menusInAll : List Value → List MenuSpec
  | [] => []
  | item :: items => menusIn item ++ menusInAll items

end

/-- The menus that an entry of a block asks for; under the auto-menu mark it is one where it has the
shape of one. -/
def menusOf (key : String) (value : Value) : List MenuSpec :=
  match if (Key.read key).2.autoMenu then MenuSpec.ofMarked? value else none with
  | some spec => [spec]
  | none => menusIn value

structure Asked where
  block : String
  key : String
  spec : MenuSpec

def menus (doc : Document) : List Asked :=
  doc.blocks.flatMap fun (block, entries) =>
    entries.flatMap fun (key, command) => (menusOf key command).map fun spec => ⟨block, key, spec⟩

def Asked.report (asked : Asked) : Problem := ⟨asked.block, asked.key, noItems⟩

/-- A list whose entries are all passed over, though there are some. -/
def Barren (value : Value) : Prop :=
  ∃ items, value = .arr items ∧ items ≠ [] ∧ ∀ item ∈ items, Unusable (.single item)

variable {doc : Document} {block key : String} {value : Value} {command : Command} {spec : MenuSpec}

def menusBy : Command → List MenuSpec
  | .menu spec => [spec]
  | .sequence items => menusInAll items
  | _ => []

theorem menusIn_of_error {error : CommandError} (misread : Command.classify value = .error error) :
    menusIn value = [] := by
  unfold menusIn
  split
  next items => cases items <;> cases misread
  next => rw [misread]

theorem menusIn_of_ok (read : Command.classify value = .ok command) :
    menusIn value = menusBy command := by
  unfold menusIn
  split
  next items => cases items <;> cases read <;> rfl
  next single =>
    rw [read]
    cases command with
    | sequence items => exact absurd (Command.eq_arr_of_classify read) (single items)
    | _ => rfl

/-! ## What is reported -/

def Begins (front text : String) : Prop := front.toList <+: text.toList

theorem Begins.refl (front : String) : Begins front front := List.prefix_rfl

theorem Begins.append {front text : String} (begins : Begins front text) (rest : String) :
    Begins front (text ++ rest) := by
  unfold Begins
  rw [String.toList_append]
  exact begins.trans (List.prefix_append ..)

theorem Begins.ne_noItems {front text : String} (begins : Begins front text)
    (other : ¬front.toList <+: noItems.toList) : text ≠ noItems := by
  rintro rfl
  exact other begins

theorem commandError_ne_noItems (error : CommandError) : error.message ≠ noItems := by
  cases error with
  | ambiguous keys =>
    have begins := (Begins.refl "record has several action keys: ").append (Text.join ", " keys)
    exact begins.ne_noItems (by decide)
  | unrecognized keys =>
    have begins := (Begins.refl "record has no recognized action key: ").append (Text.join ", " keys)
    exact begins.ne_noItems (by decide)
  | invalid key reason =>
    have begins := (((Begins.refl "invalid '").append key).append "' value: ").append reason
    exact begins.ne_noItems (by decide)

theorem malformedMessage_ne_noItems (text : String) (flaw : Flaw) :
    malformedMessage text flaw ≠ noItems := by
  have begins := (((Begins.refl "malformed instruction '").append text).append "': ").append flaw.message
  exact begins.ne_noItems (by decide)

theorem linkError_ne_noItems (error : LinkError) : error.message ≠ noItems := by
  cases error with
  | empty => decide
  | missingDocument link =>
    have begins := ((Begins.refl "link '").append link).append "' does not name a document"
    exact begins.ne_noItems (by decide)
  | missingBlock location =>
    have begins := ((Begins.refl "location '").append location).append "' has no entry point"
    exact begins.ne_noItems (by decide)
  | invalidBlock block =>
    have begins := ((Begins.refl "invalid entry point '").append block).append "'"
    exact begins.ne_noItems (by decide)
  | emptyPredicate link =>
    have begins := ((Begins.refl "empty permission predicate in '").append link).append "'"
    exact begins.ne_noItems (by decide)

theorem linkMessages_ne_noItems (doc : Document) (written : String) :
    ∀ message ∈ linkMessages doc written, message ≠ noItems := by
  unfold linkMessages
  split
  next error _ => simpa using linkError_ne_noItems error
  next block _ _ =>
    split
    next => simp
    next =>
      have begins := ((((Begins.refl "link '").append written).append "' names missing block '").append
        block).append "'"
      simpa using begins.ne_noItems (by decide)
  next => simp

def reports (messages : List String) : List String := messages.filter (· == noItems)

theorem reports_eq_nil {messages : List String} (others : ∀ message ∈ messages, message ≠ noItems) :
    reports messages = [] := by
  apply List.filter_eq_nil_iff.mpr
  simpa using others

theorem reports_menuMessages (spec : MenuSpec) : reports (menuMessages spec) = menuMessages spec := by
  unfold menuMessages
  split <;> rfl

theorem reports_of_leaf (leaf : ∀ items, value ≠ .arr items) :
    reports (commandMessages doc value) = (menusIn value).flatMap menuMessages := by
  cases read : Command.classify value with
  | error error =>
    rw [commandMessages_of_error read, menusIn_of_error read]
    apply reports_eq_nil
    simpa using commandError_ne_noItems error
  | ok command =>
    rw [commandMessages_of_ok read, menusIn_of_ok read]
    cases command with
    | menu spec => simpa [menusBy, messagesOf] using reports_menuMessages spec
    | link target => exact reports_eq_nil (linkMessages_ne_noItems doc target)
    | malformed text flaw =>
      apply reports_eq_nil
      simpa [messagesOf] using malformedMessage_ne_noItems text flaw
    | sequence items => exact absurd (Command.eq_arr_of_classify read) (leaf items)
    | _ => rfl

mutual

/-- Of a value exactly the menus that it asks for are reported, however deep they lie. -/
theorem reports_commandMessages (doc : Document) (value : Value) :
    reports (commandMessages doc value) = (menusIn value).flatMap menuMessages := by
  by_cases composite : ∃ items, value = .arr items
  · obtain ⟨items, rfl⟩ := composite
    unfold commandMessages menusIn
    exact reports_elementMessages doc items
  · exact reports_of_leaf (not_exists.mp composite)

theorem reports_elementMessages (doc : Document) (items : List Value) :
    reports (elementMessages doc items) = (menusInAll items).flatMap menuMessages := by
  cases items with
  | nil => rfl
  | cons item items =>
    unfold elementMessages menusInAll
    rw [List.flatMap_append, ← reports_commandMessages doc item, ← reports_elementMessages doc items]
    exact List.filter_append ..

end

theorem reports_entryMessages (doc : Document) (key : String) (value : Value) :
    reports (entryMessages doc key value) = (menusOf key value).flatMap menuMessages := by
  unfold entryMessages menusOf
  cases if (Key.read key).2.autoMenu then MenuSpec.ofMarked? value else none with
  | some spec => simpa using reports_menuMessages spec
  | none => exact reports_commandMessages doc value

theorem flatMap_menuMessages (specs : List MenuSpec) :
    specs.flatMap menuMessages = (specs.filter fun spec => seemsEmpty spec.items).map fun _ => noItems := by
  induction specs with
  | nil => rfl
  | cons spec specs ih =>
    rw [List.flatMap_cons, ih]
    unfold menuMessages
    cases empty : seemsEmpty spec.items <;> simp [empty, noItems]

theorem filter_problems (doc : Document) :
    (problems doc).filter (fun problem => problem.message == noItems) =
      ((menus doc).filter fun asked => seemsEmpty asked.spec.items).map Asked.report := by
  have entry (block key : String) (value : Value) :
      ((entryMessages doc key value).map fun message => (⟨block, key, message⟩ : Problem)).filter
          (fun problem => problem.message == noItems) =
        (((menusOf key value).map fun spec => (⟨block, key, spec⟩ : Asked)).filter
          fun asked => seemsEmpty asked.spec.items).map Asked.report := by
    have told := (reports_entryMessages doc key value).trans (flatMap_menuMessages _)
    have kept : (entryMessages doc key value).filter ((fun problem => problem.message == noItems) ∘
        fun message => (⟨block, key, message⟩ : Problem)) = reports (entryMessages doc key value) := rfl
    rw [List.filter_map, List.filter_map, List.map_map, kept, told, List.map_map]
    rfl
  unfold problems
  split
  next none =>
    rw [menus, List.isEmpty_iff.mp none]
    rfl
  next =>
    unfold menus
    simp only [List.filter_flatMap, List.map_flatMap, entry]

/-! ## What is launched -/

theorem menusIn_subset_menusInAll {items : List Value} {item : Value} (member : item ∈ items) :
    menusIn item ⊆ menusInAll items := by
  induction items with
  | nil => cases member
  | cons first items ih =>
    unfold menusInAll
    rcases List.mem_cons.mp member with rfl | later
    · exact List.subset_append_left _ _
    · exact List.subset_append_of_subset_right _ (ih later)

theorem menusOf_of_ok {mode : Mode}
    (read : Navigator.commandOf (FollowUp.ofKey mode key).2 value = .ok command) :
    menusOf key value = menusBy command := by
  unfold Navigator.commandOf at read
  unfold menusOf
  have marks : (FollowUp.ofKey mode key).2.autoMenu = (Key.read key).2.autoMenu := rfl
  rw [marks] at read
  cases marked : if (Key.read key).2.autoMenu then MenuSpec.ofMarked? value else none with
  | some spec =>
    rw [marked] at read
    cases read
    rfl
  | none =>
    rw [marked] at read
    exact menusIn_of_ok read

theorem menusBy_of_launches (launches : doc.Launches block command) :
    ∃ key, ∀ spec ∈ menusBy command, ⟨block, key, spec⟩ ∈ menus doc := by
  induction launches with
  | @entry mode key written value command looked read =>
    obtain ⟨entries, named, member⟩ := Document.mem_of_lookupKey? looked
    refine ⟨written, fun spec asked => ?_⟩
    rw [← menusOf_of_ok read] at asked
    exact List.mem_flatMap.mpr ⟨_, Document.mem_of_block? named,
      List.mem_flatMap.mpr ⟨_, member, List.mem_map_of_mem asked⟩⟩
  | element _ member read ih =>
    obtain ⟨key, asked⟩ := ih
    refine ⟨key, fun spec inside => asked spec ?_⟩
    rw [← menusIn_of_ok read] at inside
    exact menusIn_subset_menusInAll member inside
  | @target _ _ command _ _ _ read _ =>
    -- the text of a target asks for no menu
    have single := Command.isComposite_of_classify_str read
    have none : menusBy command = [] := by
      cases command <;> first | rfl | cases single
    exact ⟨"", by simp [none]⟩

/-! ## What cannot be built -/

theorem build_fails_iff (value : Value) (options : Menu.Options) :
    Menu.build (.ofValue value) options = .error .empty ↔ seemsEmpty value = true ∨ Barren value := by
  rw [Menu.build_ofValue_eq_empty_iff]
  have listed : ¬(∃ items, value = .arr items) → ¬Barren value := by
    rintro other ⟨items, same, _⟩
    exact other ⟨items, same⟩
  cases value with
  | null => simpa [entriesOf, seemsEmpty] using Unusable.null
  | bool value =>
    have usable : ¬Unusable (.single (.bool value)) := nofun
    simpa [entriesOf, seemsEmpty, usable] using listed nofun
  | num value =>
    have usable : ¬Unusable (.single (.num value)) := nofun
    simpa [entriesOf, seemsEmpty, usable] using listed nofun
  | str text =>
    have blank : Unusable (.single (.str text)) ↔ Text.blank text = true := by
      constructor
      · rintro ⟨⟩
        assumption
      · exact .blank
    have single := listed nofun
    simp [entriesOf, seemsEmpty, blank, single]
  | arr items =>
    by_cases none : items = []
    · simp [entriesOf, seemsEmpty, none]
    · simp [entriesOf, seemsEmpty, Barren, none]
  | obj fields =>
    have single := listed nofun
    cases fields with
    | nil => simp [entriesOf, seemsEmpty]
    | cons field fields =>
      have usable : ¬Unusable (.labelled field.1 field.2) := nofun
      simp [entriesOf, seemsEmpty, usable, single]

theorem seemsEmpty_of_barren {value : Value} (barren : Barren value) : seemsEmpty value = false := by
  obtain ⟨items, rfl, some, _⟩ := barren
  simpa [seemsEmpty] using some

/-- Every menu that is launched in a block is asked for by an entry, and the menus that are reported
are those whose source seems empty. They cannot be built, and of those that cannot be built only the
barren ones are not reported. -/
theorem empty_menus_reported (doc : Document) :
    (problems doc).filter (fun problem => problem.message == noItems) =
      ((menus doc).filter fun asked => seemsEmpty asked.spec.items).map Asked.report ∧
    (∀ block spec, doc.Launches block (.menu spec) → ∃ key, ⟨block, key, spec⟩ ∈ menus doc) ∧
    ∀ (spec : MenuSpec) options,
      (Menu.build (.ofValue spec.items) options = .error .empty ↔
        seemsEmpty spec.items = true ∨ Barren spec.items) ∧
      (Barren spec.items → seemsEmpty spec.items = false) := by
  refine ⟨filter_problems doc, ?_, ?_⟩
  · intro block spec launches
    obtain ⟨key, asked⟩ := menusBy_of_launches launches
    exact ⟨key, asked spec (List.mem_singleton_self spec)⟩
  · intro spec options
    exact ⟨build_fails_iff spec.items options, seemsEmpty_of_barren⟩

/-- Menus without items: of an empty list, of an empty record within a sequence, and of a list that
holds nothing but null and blank text, under the auto-menu mark. -/
def bare : Document :=
  ⟨"/app", [("main", [("none", .obj [("menu", .arr [])]),
    ("steps", .arr [.str "call(note)", .obj [("title", .str "Steps"), ("menu", .obj [])]]),
    ("list*", .arr [.null, .str " "])])]⟩

def bareList : MenuSpec := { items := .arr [.null, .str " "] }

theorem bareList_barren : Barren bareList.items := by
  refine ⟨_, rfl, nofun, ?_⟩
  intro item member
  rcases List.mem_cons.mp member with rfl | blank
  · exact .null
  · obtain rfl := List.mem_singleton.mp blank
    exact .blank (by decide)

theorem bareList_launched : bare.Launches "main" (.menu bareList) := by
  have looked : bare.lookupKey? "main" "list" = some ("list*", bareList.items) := by rfl
  have read : Navigator.commandOf (FollowUp.ofKey .blocking "list*").2 bareList.items =
      .ok (.menu bareList) := by rfl
  exact .entry looked read

theorem empty_menus_reported_bare :
    (problems bare).filter (fun problem => problem.message == noItems) =
        [⟨"main", "none", noItems⟩, ⟨"main", "steps", noItems⟩] ∧
      (∃ key, ⟨"main", key, bareList⟩ ∈ menus bare) ∧
      Menu.build (.ofValue bareList.items) {} = .error .empty ∧
      seemsEmpty bareList.items = false := by
  obtain ⟨reported, asked, built⟩ := empty_menus_reported bare
  have seen : ((menus bare).filter fun asked => seemsEmpty asked.spec.items).map Asked.report =
      [⟨"main", "none", noItems⟩, ⟨"main", "steps", noItems⟩] := by
    decide +kernel
  have fails := (built bareList {}).1.mpr (.inr bareList_barren)
  have unseen := (built bareList {}).2 bareList_barren
  exact ⟨reported.trans seen, asked "main" bareList bareList_launched, fails, unseen⟩

def barrenDocument : Document :=
  ⟨"/app", [("main", [("pick", .obj [("menu", bareList.items)])])]⟩

/-- The check has nothing to say about it. -/
theorem barren_unnoticed :
    barrenDocument.Launches "main" (.menu bareList) ∧ ¬bareList.Dynamic ∧
      Menu.build (.ofValue bareList.items) {} = .error .empty ∧ problems barrenDocument = [] := by
  have looked : barrenDocument.lookupKey? "main" "pick" =
      some ("pick", .obj [("menu", bareList.items)]) := by rfl
  have read : Navigator.commandOf (FollowUp.ofKey .blocking "pick").2
      (.obj [("menu", bareList.items)]) = .ok (.menu bareList) := by rfl
  refine ⟨.entry looked read, ?_, by rfl, by rfl⟩
  rintro ⟨_, _, _, written, _⟩
  cases written

end Signpost.Check
