import Signpost.Proofs.Check

/-! What is launched in a block.

A key is launched with its command, a sequence launches its elements, and a menu launches the targets
of its items. A target that names neither a key of the block nor another block is a command of its own,
and of all that is launched this is what the check has not seen. -/

namespace Signpost

/-- The menu takes its items from a function. -/
def MenuSpec.Dynamic (spec : MenuSpec) : Prop :=
  ∃ text name args, spec.items = .str text ∧ Command.classify spec.items = .ok (.call name args)

namespace Document

def Unnamed (document : Document) (block text : String) : Prop :=
  document.lookupKey? block text = none ∧ document.hasBlock text = false

inductive Launches (document : Document) (block : String) : Command → Prop where
  | entry {mode : Mode} {key written : String} {value : Value} {command : Command} :
      document.lookupKey? block key = some (written, value) →
      Navigator.commandOf (FollowUp.ofKey mode written).2 value = .ok command →
      Launches document block command
  | element {items : List Value} {item : Value} {command : Command} :
      Launches document block (.sequence items) → item ∈ items →
      Command.classify item = .ok command → Launches document block command
  | target {spec : MenuSpec} {item : Menu.Item} {command : Command} :
      Launches document block (.menu spec) → item ∈ Menu.itemsOf spec.items →
      document.Unnamed block item.target → Command.classify (.str item.target) = .ok command →
      Launches document block command

/-- The command is the target of a menu of the block and names neither a key nor a block. -/
def Aims (document : Document) (block : String) (command : Command) : Prop :=
  ∃ spec item, document.Launches block (.menu spec) ∧ item ∈ Menu.itemsOf spec.items ∧
    document.Unnamed block item.target ∧ Command.classify (.str item.target) = .ok command

end Document

namespace Check

variable {doc : Document} {written text block : String} {flaw : Flaw} {command : Command}

/-- A link without problems can be read, and within the document it leads somewhere. -/
theorem of_linkMessages (clear : linkMessages doc written = []) :
    ∃ link, Link.read written = .ok link ∧ (link.target = .sameDocument →
      ∀ block, link.block = some block → doc.hasBlock block = true) := by
  unfold linkMessages at clear
  split at clear
  next => cases clear
  next block _ read =>
    refine ⟨_, read, fun _ other same => ?_⟩
    cases same
    simpa using clear
  next link other read =>
    refine ⟨link, read, fun within block named => ?_⟩
    obtain ⟨target, named', permission⟩ := link
    cases within
    cases named
    exact absurd rfl (other block permission)

/-- Of what a document without problems launches, the check has seen all but the targets of menus. -/
theorem messagesOf_of_launches (sound : problems doc = []) (launches : doc.Launches block command) :
    doc.Aims block command ∨ messagesOf doc command = [] := by
  induction launches with
  | entry looked read =>
    obtain ⟨entries, named, member⟩ := Document.mem_of_lookupKey? looked
    have clear := entryMessages_of_problems sound named member
    rw [entryMessages_of_ok read] at clear
    exact .inr clear
  | @element items item command _ member read ih =>
    -- the text of a target is never read as a sequence, so this sequence has been checked
    rcases ih with ⟨_, _, _, _, _, written⟩ | clear
    · cases Command.eq_arr_of_classify written
    · have whole : ∀ item ∈ items, commandMessages doc item = [] := elementMessages_eq_nil.mp clear
      have here := whole item member
      rw [commandMessages_of_ok read] at here
      exact .inr here
  | target menu member unnamed read => exact .inl ⟨_, _, menu, member, unnamed, read⟩

end Check

end Signpost
