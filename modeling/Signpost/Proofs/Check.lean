import Signpost.Check
import Signpost.Navigator.Dispatch
import Signpost.Proofs.Command
import Signpost.Proofs.Library

/-! What a document without problems is good for.

The check reads a value in the way in which a dispatch does: as a menu under the auto-menu mark where
it has the shape of one, as a sequence of values, or as a single command. So whatever the check has
nothing to say about can be read, however deep it lies in a sequence. -/

namespace Signpost.Check

variable {doc : Document} {value : Value} {items : List Value}

theorem elementMessages_eq_nil :
    elementMessages doc items = [] ↔ ∀ item ∈ items, commandMessages doc item = [] := by
  induction items with
  | nil => simp [elementMessages]
  | cons item items ih => simp [elementMessages, ih]

theorem commandMessages_arr :
    commandMessages doc (.arr items) = [] ↔ ∀ item ∈ items, commandMessages doc item = [] := by
  rw [commandMessages, elementMessages_eq_nil]

theorem commandMessages_of_error {error : CommandError} (misread : Command.classify value = .error error) :
    commandMessages doc value = [error.message] := by
  unfold commandMessages
  split
  next items => cases items <;> cases misread
  next => rw [misread]

theorem classify_of_commandMessages (checked : commandMessages doc value = []) (error : CommandError) :
    Command.classify value ≠ .error error := by
  intro misread
  rw [commandMessages_of_error misread] at checked
  cases checked

theorem entryMessages_eq (doc : Document) (mode : Mode) (key : String) (value : Value) :
    (∃ spec, Navigator.commandOf (FollowUp.ofKey mode key).2 value = .ok (.menu spec) ∧
        entryMessages doc key value = menuMessages spec) ∨
      Navigator.commandOf (FollowUp.ofKey mode key).2 value = Command.classify value ∧
        entryMessages doc key value = commandMessages doc value := by
  have marks : (FollowUp.ofKey mode key).2.autoMenu = (Key.read key).2.autoMenu := rfl
  unfold Navigator.commandOf entryMessages
  rw [marks]
  cases if (Key.read key).2.autoMenu then MenuSpec.ofMarked? value else none with
  | some spec => exact .inl ⟨spec, rfl, rfl⟩
  | none => exact .inr ⟨rfl, rfl⟩

theorem commandOf_ne_error (mode : Mode) {key : String} (checked : entryMessages doc key value = [])
    (error : CommandError) :
    Navigator.commandOf (FollowUp.ofKey mode key).2 value ≠ .error error := by
  rcases entryMessages_eq doc mode key value with ⟨spec, menu, _⟩ | ⟨read, same⟩
  · rw [menu]
    nofun
  · rw [read]
    exact classify_of_commandMessages (same ▸ checked) error

def messagesOf (doc : Document) : Command → List String
  | .malformed text flaw => [malformedMessage text flaw]
  | .link target => linkMessages doc target
  | .menu spec => menuMessages spec
  | .sequence items => elementMessages doc items
  | _ => []

theorem commandMessages_of_ok {command : Command} (read : Command.classify value = .ok command) :
    commandMessages doc value = messagesOf doc command := by
  unfold commandMessages
  split
  next items => cases items <;> cases read <;> rfl
  next single =>
    rw [read]
    cases command with
    | sequence items => exact absurd (Command.eq_arr_of_classify read) (single items)
    | _ => rfl

theorem entryMessages_of_ok {mode : Mode} {key : String} {command : Command}
    (read : Navigator.commandOf (FollowUp.ofKey mode key).2 value = .ok command) :
    entryMessages doc key value = messagesOf doc command := by
  rcases entryMessages_eq doc mode key value with ⟨spec, menu, same⟩ | ⟨classified, same⟩
  · cases menu.symm.trans read
    exact same
  · exact same.trans (commandMessages_of_ok (classified.symm.trans read))

theorem elements_of_commandOf (mode : Mode) {key : String}
    (checked : entryMessages doc key value = [])
    (read : Navigator.commandOf (FollowUp.ofKey mode key).2 value = .ok (.sequence items)) :
    ∀ item ∈ items, commandMessages doc item = [] := by
  rw [entryMessages_of_ok read] at checked
  exact elementMessages_eq_nil.mp checked

theorem mem_problems {block key message : String} {entries : Block}
    (present : (block, entries) ∈ doc.blocks) (member : (key, value) ∈ entries)
    (told : message ∈ entryMessages doc key value) : ⟨block, key, message⟩ ∈ problems doc := by
  have blocks : doc.blocks.isEmpty = false := List.isEmpty_eq_false_iff_exists_mem.mpr ⟨_, present⟩
  unfold problems
  rw [if_neg (by simp [blocks])]
  refine List.mem_flatMap.mpr ⟨_, present, List.mem_flatMap.mpr ⟨_, member, ?_⟩⟩
  exact List.mem_map.mpr ⟨message, told, rfl⟩

theorem entryMessages_of_problems (sound : problems doc = []) {block key : String} {entries : Block}
    (named : doc.block? block = some entries) (member : (key, value) ∈ entries) :
    entryMessages doc key value = [] := by
  have present := Document.mem_of_block? named
  have blocks : doc.blocks.isEmpty = false := List.isEmpty_eq_false_iff_exists_mem.mpr ⟨_, present⟩
  unfold problems at sound
  rw [if_neg (by simp [blocks])] at sound
  have clear := List.flatMap_eq_nil_iff.mp sound (block, entries) present
  exact List.map_eq_nil_iff.mp (List.flatMap_eq_nil_iff.mp clear (key, value) member)

end Signpost.Check
