import Signpost.Menu.Selection

/-! What several lines select from a menu.

A line either selects something, or it leaves a model to select from: the same one when it is
rejected, or a narrower one. -/

namespace Signpost.Menu

def Selection.All (kind : Item → Prop) : Selection → Prop
  | single item => kind item
  | multi items => ∀ item ∈ items, kind item
  | narrowed model => ∀ item ∈ model.items, kind item

/-- A value that is written down gives the items that it would give as an answer. -/
theorem Source.items_ofValue (value : Value) : (Source.ofValue value).items = .ok (itemsOf value) := by
  cases value <;> rfl

namespace Model

variable {model model' : Model} {line : String} {selection : Selection}

def selects (model : Model) (line : String) : Option Selection :=
  match model.resolve line with
  | .ok (.single item) => some (.single item)
  | .ok (.multi items) => some (.multi items)
  | .ok (.narrowed _) | .error _ => none

/-- What is left to select from after a line that selects nothing. -/
def retained (model : Model) (line : String) : Option Model :=
  match model.resolve line with
  | .ok (.narrowed narrower) => some narrower
  | .error _ => some model
  | .ok (.single _) | .ok (.multi _) => none

/-- What a line selects when the lines before it select nothing. -/
def chosen (model : Model) : List String → String → Option Selection
  | [], line => model.selects line
  | first :: earlier, line => (model.retained first).bind fun left => left.chosen earlier line

theorem of_selects (selected : model.selects line = some selection) :
    model.resolve line = .ok selection ∧ ∀ narrower, selection ≠ .narrowed narrower := by
  unfold selects at selected
  split at selected <;> cases selected
  · exact ⟨‹_›, nofun⟩
  · exact ⟨‹_›, nofun⟩

theorem of_retained (left : model.retained line = some model') :
    (∃ error, model.resolve line = .error error ∧ model' = model) ∨
      model.resolve line = .ok (.narrowed model') := by
  unfold retained at left
  split at left <;> cases left
  · exact .inr ‹_›
  · exact .inl ⟨_, ‹_›, rfl⟩

theorem selects_or_retained (model : Model) (line : String) :
    (∃ selection, model.selects line = some selection ∧ model.retained line = none) ∨
      ∃ left, model.retained line = some left ∧ model.selects line = none := by
  unfold selects retained
  rcases model.resolve line with error | (item | items | narrower)
  · exact .inr ⟨_, rfl, rfl⟩
  · exact .inl ⟨_, rfl, rfl⟩
  · exact .inl ⟨_, rfl, rfl⟩
  · exact .inr ⟨_, rfl, rfl⟩

/-! ## Where selected items come from -/

theorem of_build {source : Source} {options : Options} (built : build source options = .ok model) :
    ∃ items, source.items = .ok items ∧ ∀ item ∈ model.items, item ∈ items ∨ item = backItem := by
  unfold build at built
  cases given : source.items with
  | error error =>
    rw [given] at built
    cases built
  | ok items =>
    rw [given] at built
    cases items with
    | nil => cases built
    | cons first rest =>
      cases built
      refine ⟨_, rfl, fun item member => ?_⟩
      dsimp only at member
      split at member
      · simpa only [List.mem_append, List.mem_singleton] using member
      · exact .inl member

theorem of_map_ok {α β ε : Type} {f : α → β} {found : Except ε α} {b : β}
    (mapped : found.map f = .ok b) : ∃ a, found = .ok a ∧ f a = b := by
  cases found <;> cases mapped
  exact ⟨_, rfl, rfl⟩

theorem mem_of_pick {input : String} {item : Item} (picked : model.pick input = .ok item) :
    item ∈ model.items := by
  unfold pick at picked
  split at picked
  · cases picked
  split at picked
  next => cases picked
  next =>
    split at picked
    next found =>
      cases picked
      exact List.mem_of_getElem? found
    next => cases picked
  next =>
    dsimp only at picked
    split at picked
    next found =>
      cases picked
      exact List.mem_of_find?_eq_some found
    next =>
      split at picked
      next => cases picked
      next only =>
        cases picked
        exact (List.mem_filter.mp (only ▸ List.mem_singleton_self _)).1
      next => cases picked

theorem mem_of_pickAll {entries : List (List Char)} {items : List Item}
    (picked : model.pickAll entries = .ok items) : ∀ item ∈ items, item ∈ model.items := by
  induction entries generalizing items with
  | nil =>
    cases picked
    nofun
  | cons entry entries ih =>
    unfold pickAll at picked
    cases first : model.pick (String.ofList (Text.trimChars entry)) with
    | error error =>
      rw [first] at picked
      cases picked
    | ok item =>
      rw [first] at picked
      cases later : model.pickAll entries with
      | error error =>
        rw [later] at picked
        cases picked
      | ok rest =>
        rw [later] at picked
        cases picked
        exact List.forall_mem_cons.mpr ⟨mem_of_pick first, ih later⟩

/-- A line selects nothing that the menu does not have. -/
theorem all_of_resolve {kind : Item → Prop} (offered : ∀ item ∈ model.items, kind item)
    (resolved : model.resolve line = .ok selection) : selection.All kind := by
  unfold resolve at resolved
  split at resolved
  next => cases resolved
  next needle _ =>
    have narrowed : ∀ item ∈ (model.narrow (String.ofList needle)).items, kind item :=
      fun item member => offered item (List.mem_filter.mp member).1
    dsimp only at resolved
    split at resolved
    next => cases resolved
    next only =>
      cases resolved
      exact narrowed _ (List.mem_filter.mp (only ▸ List.mem_singleton_self _)).1
    next =>
      cases resolved
      exact narrowed
  next =>
    split at resolved
    next =>
      split at resolved
      next =>
        obtain ⟨items, picked, rfl⟩ := of_map_ok resolved
        exact fun item member => offered item (mem_of_pickAll picked item member)
      next => cases resolved
    next =>
      obtain ⟨item, picked, rfl⟩ := of_map_ok resolved
      exact offered item (mem_of_pick picked)

end Model

end Signpost.Menu
