import Signpost.Proofs.Menu

/-! What a menu is built from.

A source consists of entries: the elements of a list, the fields of a record, or a single value. An
entry that can be used becomes one option, the others are passed over. A menu is built whenever an
option is left, and it differs from the options by the back item alone. -/

namespace Signpost.Menu

/-- A part of a source: a value on its own, or a value under a label. -/
inductive Entry where
  | single (value : Value)
  | labelled (label : String) (value : Value)

namespace Entry

inductive Unusable : Entry → Prop where
  | null : Unusable (single .null)
  | blank {text : String} : Text.blank text = true → Unusable (single (.str text))
  | unlabelled {fields : Fields} : Fields.text? fields "label" = none → Unusable (single (.obj fields))

inductive Offers : Entry → Item → Prop where
  | text {text : String} : Text.blank text = false → Offers (single (.str text)) ⟨text, text, false⟩
  | bool (value : Bool) :
      Offers (single (.bool value)) ⟨(Value.bool value).text, (Value.bool value).text, false⟩
  | number (value : Number) :
      Offers (single (.num value)) ⟨(Value.num value).text, (Value.num value).text, false⟩
  | list (items : List Value) :
      Offers (single (.arr items)) ⟨(Value.arr items).text, (Value.arr items).text, false⟩
  | record {fields : Fields} {label : String} : Fields.text? fields "label" = some label →
      Offers (single (.obj fields)) ⟨label, (Fields.text? fields "target").getD label, false⟩
  | target (label : String) {target : String} : Text.blank target = false →
      Offers (labelled label (.str target)) ⟨label, target, false⟩
  | untargeted (label : String) {value : Value} :
      (∀ target, value = .str target → Text.blank target = true) →
      Offers (labelled label value) ⟨label, label, false⟩

/-- The items are the options of the usable entries, each once and in order. -/
inductive Yields : List Entry → List Item → Prop where
  | nil : Yields [] []
  | taken {entry : Entry} {item : Item} {entries : List Entry} {items : List Item} :
      Offers entry item → Yields entries items → Yields (entry :: entries) (item :: items)
  | passed {entry : Entry} {entries : List Entry} {items : List Item} :
      Unusable entry → Yields entries items → Yields (entry :: entries) items

variable {entry : Entry} {entries : List Entry} {item : Item} {items : List Item}

theorem Offers.not_unusable (offers : Offers entry item) : ¬Unusable entry := by
  intro unusable
  cases unusable with
  | null => cases offers
  | blank blank =>
    cases offers with
    | text shown => simp [blank] at shown
  | unlabelled none =>
    cases offers with
    | record named => simp [none] at named

theorem Offers.not_back (offers : Offers entry item) : item.back = false := by
  cases offers <;> rfl

theorem Yields.not_back (yields : Yields entries items) : ∀ item ∈ items, item.back = false := by
  induction yields with
  | nil => simp
  | taken offers _ ih => simpa using ⟨offers.not_back, ih⟩
  | passed _ _ ih => exact ih

theorem Yields.eq_nil_iff (yields : Yields entries items) :
    items = [] ↔ ∀ entry ∈ entries, Unusable entry := by
  induction yields with
  | nil => simp
  | taken offers _ _ => simp [offers.not_unusable]
  | passed unusable _ ih => simp [unusable, ih]

theorem itemOf?_cases (value : Value) :
    (itemOf? value = none ∧ Unusable (single value)) ∨
      ∃ item, itemOf? value = some item ∧ Offers (single value) item := by
  cases value with
  | null => exact .inl ⟨rfl, .null⟩
  | bool value => exact .inr ⟨_, rfl, .bool value⟩
  | num value => exact .inr ⟨_, rfl, .number value⟩
  | arr items => exact .inr ⟨_, rfl, .list items⟩
  | str text =>
    cases blank : Text.blank text with
    | true => exact .inl ⟨by simp [itemOf?, blank], .blank blank⟩
    | false => exact .inr ⟨_, by simp [itemOf?, blank], .text blank⟩
  | obj fields =>
    cases named : Fields.text? fields "label" with
    | none => exact .inl ⟨by simp [itemOf?, named], .unlabelled named⟩
    | some label => exact .inr ⟨_, by simp [itemOf?, named], .record named⟩

theorem offers_itemOfField (field : String × Value) :
    Offers (labelled field.1 field.2) (itemOfField field) := by
  obtain ⟨label, value⟩ := field
  unfold itemOfField
  split
  next target same =>
    obtain rfl : value = .str target := same
    cases blank : Text.blank target with
    | true =>
      apply Offers.untargeted
      rintro other ⟨⟩
      exact blank
    | false => exact .target label blank
  next untargeted =>
    apply Offers.untargeted
    intro target same
    exact absurd same (untargeted target)

theorem yields_elements (values : List Value) :
    Yields (values.map single) (values.filterMap itemOf?) := by
  induction values with
  | nil => exact .nil
  | cons value values ih =>
    rcases itemOf?_cases value with ⟨none, unusable⟩ | ⟨item, made, offers⟩
    · rw [List.map_cons, List.filterMap_cons_none none]
      exact .passed unusable ih
    · rw [List.map_cons, List.filterMap_cons_some made]
      exact .taken offers ih

theorem yields_fields (fields : Fields) :
    Yields (fields.map fun field => labelled field.1 field.2) (fields.map itemOfField) := by
  induction fields with
  | nil => exact .nil
  | cons field fields ih => exact .taken (offers_itemOfField field) ih

theorem yields_single (value : Value) : Yields [single value] (itemOf? value).toList := by
  rcases itemOf?_cases value with ⟨none, unusable⟩ | ⟨item, made, offers⟩
  · rw [none]
    exact .passed unusable .nil
  · rw [made]
    exact .taken offers .nil

end Entry

open Entry

def entriesOf : Value → List Entry
  | .arr items => items.map single
  | .obj fields => fields.map fun field => labelled field.1 field.2
  | value => [single value]

theorem yields_itemsOf (value : Value) : Yields (entriesOf value) (itemsOf value) := by
  cases value with
  | arr items => exact yields_elements items
  | obj fields => exact yields_fields fields
  | null | bool | num | str => exact yields_single _

/-- A value gives no items exactly if it has no usable entry. -/
theorem itemsOf_eq_nil_iff (value : Value) :
    itemsOf value = [] ↔ ∀ entry ∈ entriesOf value, Unusable entry :=
  (yields_itemsOf value).eq_nil_iff

/-- What a source consists of; a function that fails has given nothing. -/
inductive Source.Gives : Source → List Entry → Prop where
  | list (items : List Value) : Gives (.list items) (items.map single)
  | map (fields : Fields) : Gives (.map fields) (fields.map fun field => labelled field.1 field.2)
  | scalar (value : Value) : Gives (.scalar value) [single value]
  | dynamic (value : Value) : Gives (.dynamic (.ok value)) (entriesOf value)

theorem Source.gives_of_items {source : Source} {items : List Item}
    (given : source.items = .ok items) : ∃ entries, source.Gives entries ∧ Yields entries items := by
  cases source with
  | list values =>
    cases given
    exact ⟨_, .list values, yields_elements values⟩
  | map fields =>
    cases given
    exact ⟨_, .map fields, yields_fields fields⟩
  | scalar value =>
    cases given
    exact ⟨_, .scalar value, yields_single value⟩
  | dynamic produced =>
    cases produced with
    | error => cases given
    | ok value =>
      cases given
      exact ⟨_, .dynamic value, yields_itemsOf value⟩

def assemble (items : List Item) (options : Options) (kind : SourceKind) : Model where
  items := if options.allowBack then items ++ [backItem] else items
  title := options.title
  allowBack := options.allowBack
  multi := options.multi
  source := kind

variable {source : Source} {options : Options} {model : Model}

/-- A menu is built exactly of a source that gives an option. -/
theorem build_eq_ok_iff : build source options = .ok model ↔
    ∃ items, source.items = .ok items ∧ items ≠ [] ∧ model = assemble items options source.kind := by
  unfold build
  constructor
  · intro built
    split at built
    next => cases built
    next => cases built
    next items some given =>
      cases built
      exact ⟨items, given, some, rfl⟩
  · rintro ⟨items, given, some, rfl⟩
    obtain ⟨first, rest, rfl⟩ := List.exists_cons_of_ne_nil some
    rw [given]
    rfl

theorem build_eq_empty_iff : build source options = .error .empty ↔ source.items = .ok [] := by
  unfold build
  constructor
  · intro failed
    split at failed
    next other given =>
      cases failed
      -- only a function fails, and it fails for a reason
      cases source with
      | dynamic produced => cases produced <;> cases given
      | list | map | scalar => cases given
    next given => exact given
    next => cases failed
  · intro none
    rw [none]

/-- A value that is written down fails to be a menu exactly if it has no usable entry. -/
theorem build_ofValue_eq_empty_iff (value : Value) (options : Options) :
    build (.ofValue value) options = .error .empty ↔ ∀ entry ∈ entriesOf value, Unusable entry := by
  rw [build_eq_empty_iff, Source.items_ofValue, Except.ok.injEq, itemsOf_eq_nil_iff]

end Signpost.Menu
