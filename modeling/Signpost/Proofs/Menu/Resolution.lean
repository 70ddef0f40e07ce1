import Signpost.Proofs.Menu
import Signpost.Proofs.Text.Count

/-! What a line selects from a menu.

A line that is a number selects by position, whatever the labels are, and items are drawn with their
positions in every density. Other text selects the first item with that label, in any letter case, or
else the only one whose label holds it. Several entries are taken one by one, and the first bad one
decides. -/

namespace Signpost

/-- What stands between the position of an item and its label. -/
def Density.mark : Density → String
  | full | simple => ". "
  | compact => ":"

namespace Menu

/-! ## Positions as they are drawn -/

theorem Model.map_numbered {α : Type} (model : Model) (draw : Nat × Item → α) :
    model.numbered.map draw = model.items.mapIdx fun index item => draw (index + 1, item) := by
  refine List.ext_getElem? fun index => ?_
  rw [Model.numbered, List.map_map, List.getElem?_map, List.getElem?_zipIdx, List.getElem?_mapIdx,
    Option.map_map, Nat.add_comm 1 index]
  rfl

namespace View

def entries (view : View) : List String :=
  view.model.items.mapIdx fun index item => toString (index + 1) ++ view.density.mark ++ item.label

def drawn (view : View) (entries : List String) : String :=
  match view.density with
  | .full =>
      String.join (view.heading.map (· ++ "\n")) ++
        String.join (entries.map fun entry => "  " ++ entry ++ "\n")
  | .simple => String.join (entries.map (· ++ "\n"))
  | .compact => Text.join " " entries ++ "\n"

theorem entries_eq_map_numbered (view : View) :
    view.entries = view.model.numbered.map fun numbered =>
      toString numbered.1 ++ view.density.mark ++ numbered.2.label :=
  (Model.map_numbered view.model fun numbered =>
    toString numbered.1 ++ view.density.mark ++ numbered.2.label).symm

/-- In every density all that is drawn of the items are their positions and labels. -/
theorem text_eq_drawn (view : View) : view.text = view.drawn view.entries := by
  rw [entries_eq_map_numbered]
  unfold text drawn
  cases view.density <;> simp [Density.mark, Function.comp_def, String.append_assoc]

theorem getElem?_entries {view : View} {index : Nat} {item : Item}
    (offered : view.model.items[index]? = some item) :
    view.entries[index]? = some (toString (index + 1) ++ view.density.mark ++ item.label) := by
  rw [entries, List.getElem?_mapIdx, offered]
  rfl

end View

namespace Model

variable {model : Model} {line input : String} {item : Item} {index position : Nat}
  {error : SelectionError}

/-! ## Entries -/

def FirstNamed (model : Model) (label : String) (item : Item) : Prop :=
  ∃ before after, model.items = before ++ item :: after ∧
    Text.lower item.label = Text.lower label ∧
      ∀ other ∈ before, Text.lower other.label ≠ Text.lower label

/-- The text stands somewhere in the label of the item, in any letter case. -/
def Holds (text : String) (item : Item) : Prop :=
  (Text.lower text).toList <:+: (Text.lower item.label).toList

def OnlyHolding (model : Model) (text : String) (item : Item) : Prop :=
  ∃ before after, model.items = before ++ item :: after ∧ Holds text item ∧
    ∀ other ∈ before ++ after, ¬Holds text other

theorem holds_iff : item.holds (Text.lower input) = true ↔ Holds input item := Text.occurs_iff

theorem pick_empty (model : Model) : model.pick "" = .error .emptyInput := rfl

theorem ne_empty_of_count? (counted : Text.count? input = some position) : input.isEmpty = false := by
  refine Bool.eq_false_iff.mpr fun empty => ?_
  rw [String.isEmpty_iff.mp empty] at counted
  cases counted

theorem pick_of_position (writes : Text.Writes (index + 1) input) (fits : index + 1 < Nat.pow 2 64)
    (offered : model.items[index]? = some item) : model.pick input = .ok item := by
  have counted := Text.count?_eq_some_iff.mpr ⟨writes, fits⟩
  unfold pick
  simp only [ne_empty_of_count? counted, counted, offered, Bool.false_eq_true, if_false]

theorem pick_of_outside (writes : Text.Writes position input) (fits : position < Nat.pow 2 64)
    (outside : position = 0 ∨ model.items.length < position) :
    model.pick input = .error (.outOfRange position model.items.length) := by
  have counted := Text.count?_eq_some_iff.mpr ⟨writes, fits⟩
  unfold pick
  cases position with
  | zero => simp only [ne_empty_of_count? counted, counted, Bool.false_eq_true, if_false]
  | succ index =>
    have missing : model.items[index]? = none := List.getElem?_eq_none (by omega)
    simp only [ne_empty_of_count? counted, counted, missing, Bool.false_eq_true, if_false]

theorem find?_named_iff :
    model.items.find? (fun item => Text.lower item.label == Text.lower input) = some item ↔
      model.FirstNamed input item := by
  simp only [List.find?_eq_some_iff_append, FirstNamed, beq_iff_eq, Bool.not_eq_true',
    beq_eq_false_iff_ne, ne_eq]
  constructor
  · rintro ⟨same, before, after, split, others⟩
    exact ⟨before, after, split, same, others⟩
  · rintro ⟨before, after, split, same, others⟩
    exact ⟨same, before, after, split, others⟩

theorem filter_holds_iff :
    model.items.filter (·.holds (Text.lower input)) = [item] ↔ model.OnlyHolding input item := by
  simp only [List.filter_eq_cons_iff, List.filter_eq_nil_iff, holds_iff, OnlyHolding,
    List.forall_mem_append]
  constructor
  · rintro ⟨before, after, split, earlier, here, later⟩
    exact ⟨before, after, split, here, earlier, later⟩
  · rintro ⟨before, after, split, here, earlier, later⟩
    exact ⟨before, after, split, earlier, here, later⟩

theorem pick_eq_ok_iff (shown : input ≠ "") (uncounted : Text.count? input = none) :
    model.pick input = .ok item ↔
      model.FirstNamed input item ∨
        (∀ other ∈ model.items, Text.lower other.label ≠ Text.lower input) ∧
          model.OnlyHolding input item := by
  have nonempty : input.isEmpty = false := by simpa using shown
  rw [← find?_named_iff, ← filter_holds_iff]
  unfold pick
  simp only [nonempty, uncounted, Bool.false_eq_true, if_false]
  cases named : model.items.find? (fun item => Text.lower item.label == Text.lower input) with
  | some first =>
    have same : Text.lower first.label = Text.lower input := by
      simpa using List.find?_some named
    have taken : ¬∀ other ∈ model.items, Text.lower other.label ≠ Text.lower input := fun absent =>
      absent first (List.mem_of_find?_eq_some named) same
    simp [taken]
  | none =>
    have absent : ∀ other ∈ model.items, Text.lower other.label ≠ Text.lower input := by
      simpa using List.find?_eq_none.mp named
    simp only [reduceCtorEq, false_or, iff_true_intro absent, true_and]
    split
    next none => simp [none]
    next only => simp [only]
    next several => exact iff_of_false nofun (several item)

/-! ## Several entries -/

/-- The entries of a line, without the blanks around them. -/
def parts (line : String) : List String :=
  ((Text.trim line).toList.splitOn ',').map fun part => Text.trim (String.ofList part)

/-- Either every entry selects an item, or the first one that does not decides. -/
inductive Takes (model : Model) (entries : List String) :
    Except SelectionError (List Item) → Prop where
  | all {items : List Item} :
      List.Forall₂ (fun entry item => model.pick entry = .ok item) entries items →
        Takes model entries (.ok items)
  | stopped {before after : List String} {bad : String} {error : SelectionError} :
      entries = before ++ bad :: after → (∀ entry ∈ before, ∃ item, model.pick entry = .ok item) →
        model.pick bad = .error error → Takes model entries (.error error)

theorem takes_pickAll (model : Model) (entries : List (List Char)) :
    model.Takes (entries.map fun entry => String.ofList (Text.trimChars entry))
      (model.pickAll entries) := by
  induction entries with
  | nil => exact .all .nil
  | cons entry entries ih =>
    rw [List.map_cons, pickAll]
    cases first : model.pick (String.ofList (Text.trimChars entry)) with
    | error error => exact .stopped (List.nil_append _).symm nofun first
    | ok item =>
      dsimp only
      generalize model.pickAll entries = later at ih
      cases ih with
      | all picked => exact .all (.cons first picked)
      | stopped split earlier stops =>
        refine .stopped (by rw [split, List.cons_append]) ?_ stops
        exact List.forall_mem_cons.mpr ⟨⟨item, first⟩, earlier⟩

theorem parts_eq_map_fields (line : String) :
    parts line = (Text.fields ',' (Text.trimChars line.toList)).map fun entry =>
      String.ofList (Text.trimChars entry) := by
  simp [parts, Text.trim, Text.fields_eq_splitOn]

/-! ## Lines -/

def Unfiltered (line : String) : Prop := (Text.trim line).toList.head? ≠ some '/'

instance : DecidablePred Unfiltered := fun line =>
  inferInstanceAs (Decidable ((Text.trim line).toList.head? ≠ some '/'))

structure Single (line : String) : Prop where
  unfiltered : Unfiltered line
  undivided : ',' ∉ (Text.trim line).toList

theorem toList_trim (line : String) : (Text.trim line).toList = Text.trimChars line.toList :=
  String.toList_ofList

theorem resolve_of_single (single : Single line) :
    model.resolve line = (model.pick (Text.trim line)).map .single := by
  obtain ⟨unfiltered, undivided⟩ := single
  rw [Unfiltered, toList_trim] at unfiltered
  rw [toList_trim] at undivided
  unfold resolve Text.trim
  split
  next empty => rw [empty, String.ofList_nil, pick_empty]; rfl
  next slash => exact absurd (by rw [slash]; rfl) unfiltered
  next => rw [if_neg (by simpa using undivided)]

theorem resolve_of_divided (unfiltered : Unfiltered line) (divided : ',' ∈ (Text.trim line).toList) :
    model.resolve line =
      if model.multi then (model.pickAll (Text.fields ',' (Text.trimChars line.toList))).map .multi
      else .error .multiNotAllowed := by
  rw [Unfiltered, toList_trim] at unfiltered
  rw [toList_trim] at divided
  unfold resolve
  split
  next empty => rw [empty] at divided; cases divided
  next slash => exact absurd (by rw [slash]; rfl) unfiltered
  next => rw [if_pos (by simpa using divided)]

theorem ne_multi_of_filtered (filtered : ¬Unfiltered line) (items : List Item) :
    model.resolve line ≠ .ok (.multi items) := by
  intro resolved
  rw [Unfiltered, not_not, toList_trim] at filtered
  obtain ⟨needle, slash⟩ := List.head?_eq_some_iff.mp filtered
  unfold resolve at resolved
  split at resolved
  next => cases resolved
  next =>
    dsimp only at resolved
    split at resolved <;> cases resolved
  next unslashed => exact unslashed needle slash

/-- Several items are selected only by a divided line, where the menu allows it. -/
theorem of_resolve_multi {items : List Item} (resolved : model.resolve line = .ok (.multi items)) :
    model.multi = true ∧
      List.Forall₂ (fun entry item => model.pick entry = .ok item) (parts line) items := by
  have unfiltered : Unfiltered line := by
    by_contra filtered
    exact ne_multi_of_filtered filtered items resolved
  by_cases divided : ',' ∈ (Text.trim line).toList
  · rw [resolve_of_divided unfiltered divided] at resolved
    split at resolved
    next several =>
      obtain ⟨taken, picked, same⟩ := of_map_ok resolved
      cases same
      have takes := model.takes_pickAll (Text.fields ',' (Text.trimChars line.toList))
      rw [picked, ← parts_eq_map_fields] at takes
      cases takes with
      | all each => exact ⟨several, each⟩
    next => cases resolved
  · rw [resolve_of_single ⟨unfiltered, divided⟩] at resolved
    obtain ⟨item, -, same⟩ := of_map_ok resolved
    cases same

theorem resolve_of_number (writes : Text.Writes position input) {before after : String}
    (blank : Text.blank before = true) (blank' : Text.blank after = true) :
    model.resolve (before ++ input ++ after) = (model.pick input).map .single := by
  have trimmed : Text.trim (before ++ input ++ after) = input := by
    rw [Text.trim, String.toList_append, String.toList_append,
      Text.trimChars_surrounded (List.all_eq_true.mp blank) (List.all_eq_true.mp blank'),
      writes.trimChars, String.ofList_toList]
  have plain := writes.digit_or_plus
  have single : Single (before ++ input ++ after) := by
    constructor
    · rw [Unfiltered, trimmed]
      intro slash
      cases plain '/' (List.mem_of_head? slash)
    · rw [trimmed]
      intro comma
      cases plain ',' comma
  rw [resolve_of_single single, trimmed]

/-- What a line selects is what stands in the menu for it. A number selects the item that is drawn
with it, in every density and whatever the labels are, or else is out of range; no menu is as long as
numbers that are not read. A line with several entries selects an item for each of them, or is refused
for the first bad one. All other text selects the first item with that label or the only one whose label
holds it. -/
theorem resolve_sound (model : Model) :
    (∀ line selection, model.resolve line = .ok selection → selection.All (· ∈ model.items)) ∧
    (∀ line items, model.resolve line = .ok (.multi items) → model.multi = true ∧
      List.Forall₂ (fun entry item => model.pick entry = .ok item) (parts line) items) ∧
    (∀ line, Unfiltered line → ',' ∈ (Text.trim line).toList → model.multi = true →
      ∃ taken, model.Takes (parts line) taken ∧ model.resolve line = taken.map .multi) ∧
    (∀ before number after position, Text.blank before = true → Text.blank after = true →
      Text.Writes position number → position < Nat.pow 2 64 →
        (∀ index item, position = index + 1 → model.items[index]? = some item →
          model.resolve (before ++ number ++ after) = .ok (.single item) ∧
          ∀ view : View, view.model = model → view.text = view.drawn view.entries ∧
            view.entries[index]? = some (toString position ++ view.density.mark ++ item.label)) ∧
        (position = 0 ∨ model.items.length < position →
          model.resolve (before ++ number ++ after) =
            .error (.outOfRange position model.items.length))) ∧
    (∀ line item, Single line → (∀ n, Text.Writes n (Text.trim line) → Nat.pow 2 64 ≤ n) →
      model.resolve line = .ok (.single item) →
        model.FirstNamed (Text.trim line) item ∨ model.OnlyHolding (Text.trim line) item) := by
  refine ⟨fun line selection resolved => all_of_resolve (fun _ => id) resolved,
    fun line items => of_resolve_multi, fun line unfiltered divided several => ?_,
    fun before number after position blank blank' writes fits => ⟨?_, fun outside => ?_⟩,
    fun line item single unwritten resolved => ?_⟩
  · refine ⟨model.pickAll (Text.fields ',' (Text.trimChars line.toList)), ?_, ?_⟩
    · rw [parts_eq_map_fields]
      exact model.takes_pickAll _
    · rw [resolve_of_divided unfiltered divided, if_pos several]
  · rintro index item rfl offered
    refine ⟨?_, fun view same => ⟨view.text_eq_drawn, View.getElem?_entries (same ▸ offered)⟩⟩
    rw [resolve_of_number writes blank blank', pick_of_position writes fits offered]
    rfl
  · rw [resolve_of_number writes blank blank', pick_of_outside writes fits outside]
    rfl
  · rw [resolve_of_single single] at resolved
    obtain ⟨picked, chosen, same⟩ := of_map_ok resolved
    cases same
    have shown : Text.trim line ≠ "" := by
      intro empty
      rw [empty, pick_empty] at chosen
      cases chosen
    rcases (pick_eq_ok_iff shown (Text.count?_eq_none_iff.mpr unwritten)).mp chosen with
      named | ⟨-, only⟩
    · exact .inl named
    · exact .inr only

/-- A menu of several labels that are numbers, hold each other, or differ in case only. -/
def mixed : Model where
  items := [⟨"3", "a", false⟩, ⟨"apple pie", "b", false⟩, ⟨"Apple", "c", false⟩,
    ⟨"apple", "d", false⟩, backItem]
  title := none
  allowBack := true
  multi := true
  source := .list

theorem resolve_sound_mixed :
    mixed.resolve "\t+03 " = .ok (.single ⟨"Apple", "c", false⟩) ∧
      (∀ view : View, view.model = mixed → view.text = view.drawn view.entries ∧
        view.entries[2]? = some ("3" ++ view.density.mark ++ "Apple")) ∧
      mixed.resolve "0" = .error (.outOfRange 0 5) ∧
      (∃ taken, mixed.Takes ["1", "ZBACK", "7", "none"] taken ∧
        mixed.resolve "1, ZBACK,7,none" = taken.map .multi) ∧
      (mixed.FirstNamed "Pie" ⟨"apple pie", "b", false⟩ ∨
        mixed.OnlyHolding "Pie" ⟨"apple pie", "b", false⟩) := by
  obtain ⟨-, -, divided, numbers, labels⟩ := resolve_sound mixed
  have three : Text.Writes 3 "+03" := ⟨['+'], 1, .inr rfl, by decide⟩
  obtain ⟨chosen, drawn⟩ := (numbers "\t" "+03" " " 3 (by decide) (by decide) three (by decide)).1
    2 ⟨"Apple", "c", false⟩ rfl rfl
  have outside := (numbers "" "0" "" 0 (by decide) (by decide) (Text.writes_toString 0)
    (by decide)).2 (.inl rfl)
  exact ⟨chosen, drawn, outside, divided "1, ZBACK,7,none" (by decide) (by decide) rfl,
    labels " Pie" ⟨"apple pie", "b", false⟩ ⟨by decide, by decide⟩
      (Text.count?_eq_none_iff.mp (by decide)) (by decide)⟩

/-! ## Labels -/

/-- A text that can only be meant as a label when it is entered. -/
structure IsEntry (label : String) : Prop where
  shown : label ≠ ""
  trimmed : Text.trim label = label
  undivided : ',' ∉ label.toList
  unfiltered : label.toList.head? ≠ some '/'
  unwritten : ∀ n, Text.Writes n label → Nat.pow 2 64 ≤ n

/-- The label of an item selects the first item with that label in any letter case: the item itself,
or one before it. -/
theorem label_selects_first (entry : IsEntry item.label) (offered : item ∈ model.items) :
    ∃ before first after, model.items = before ++ first :: after ∧
      model.resolve item.label = .ok (.single first) ∧
      Text.lower first.label = Text.lower item.label ∧
      (∀ other ∈ before, Text.lower other.label ≠ Text.lower item.label) ∧
      (first = item ∨ item ∈ after) := by
  have single : Single item.label :=
    ⟨by rw [Unfiltered, entry.trimmed]; exact entry.unfiltered,
      by rw [entry.trimmed]; exact entry.undivided⟩
  have present : ¬∀ other ∈ model.items, Text.lower other.label ≠ Text.lower item.label :=
    fun absent => absent item offered rfl
  obtain ⟨first, named⟩ : ∃ first, model.FirstNamed item.label first := by
    simp only [← find?_named_iff, ← Option.isSome_iff_exists, List.find?_isSome, beq_iff_eq]
    exact ⟨item, offered, rfl⟩
  have picked : model.pick item.label = .ok first :=
    (pick_eq_ok_iff entry.shown (Text.count?_eq_none_iff.mpr entry.unwritten)).mpr (.inl named)
  obtain ⟨before, after, split, same, others⟩ := named
  refine ⟨before, first, after, split, ?_, same, others, ?_⟩
  · rw [resolve_of_single single, entry.trimmed, picked]
    rfl
  · rw [split] at offered
    rcases List.mem_append.mp offered with earlier | here
    · exact absurd rfl (others item earlier)
    · exact (List.mem_cons.mp here).imp_left Eq.symm

def twins : Model where
  items := [⟨"Abc", "Abc", false⟩, ⟨"abc", "abc", false⟩]
  title := none
  allowBack := false
  multi := false
  source := .list

theorem isEntry_abc : IsEntry "abc" where
  shown := by decide
  trimmed := by decide
  undivided := by decide
  unfiltered := by decide
  unwritten := Text.count?_eq_none_iff.mp (by decide)

theorem label_selects_first_twins :
    IsEntry "abc" ∧ (⟨"abc", "abc", false⟩ : Item) ∈ twins.items ∧
      ∃ before first after, twins.items = before ++ first :: after ∧
        twins.resolve "abc" = .ok (.single first) ∧ Text.lower first.label = Text.lower "abc" ∧
        (∀ other ∈ before, Text.lower other.label ≠ Text.lower "abc") ∧
        (first = ⟨"abc", "abc", false⟩ ∨ (⟨"abc", "abc", false⟩ : Item) ∈ after) :=
  ⟨isEntry_abc, by decide, @label_selects_first twins ⟨"abc", "abc", false⟩ isEntry_abc (by decide)⟩

/-- A label that has been typed exactly does not always select an item with exactly that label. -/
theorem label_selects_other :
    build (.list [.str "Abc", .str "abc"]) {} = .ok twins ∧ IsEntry "abc" ∧
      (⟨"abc", "abc", false⟩ : Item) ∈ twins.items ∧
      ¬∃ item, twins.resolve "abc" = .ok (.single item) ∧ item.label = "abc" := by
  have chosen : twins.resolve "abc" = .ok (.single ⟨"Abc", "Abc", false⟩) := by rfl
  refine ⟨by rfl, isEntry_abc, by decide, ?_⟩
  rintro ⟨item, resolved, label⟩
  rw [chosen] at resolved
  cases resolved
  exact absurd label (by decide)

end Model

end Menu

end Signpost
