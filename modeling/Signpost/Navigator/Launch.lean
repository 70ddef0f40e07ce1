import Signpost.Command.Classify
import Signpost.Menu.Selection
import Signpost.Navigator.Basic
import Signpost.Template

/-! Launching a command.

Everything here takes `nested`, which dispatches a key of the current block; only menu items use it.
A composite stops at the first outcome that interrupts. -/

namespace Signpost.Navigator

variable {World : Type} (n : Navigator World)

def isBlocking : Act World Bool := do
  let session ← Act.session
  return session.mode == .blocking

def collected : List Value → Outcome
  | [] => .empty
  | values => .done (.arr values)

def collect (values : List Value) : Outcome → List Value
  | .done value => values ++ [value]
  | _ => values

/-- Launches parts in order and collects their values until one interrupts. -/
def collectAll {α : Type} (launch : α → Act World Outcome) (values : List Value) :
    List α → Act World Outcome
  | [] => return collected values
  | part :: parts => do
      let outcome ← launch part
      if outcome.interrupts then return outcome
      else collectAll launch (collect values outcome) parts

/-- What a blocked display shows: text is a template of the session. -/
def displayPayload (session : Session) : Value → Payload
  | .str text => .text (Template.renderDisplay session text)
  | value => .ofValue value

/-- The value of plain text for a client: the command of a key, the entries of a block, or the text
for display. -/
def plainValue (text : String) : Act World Value := do
  let wrapped : Value := .obj [("display", .str text)]
  match ← Act.attempt n.currentDocument with
  | .error _ => return wrapped
  | .ok (document, block) =>
      match document.lookupKey? block text with
      | some (_, command) => return command
      | none =>
          match document.block? text with
          | some entries => return .obj entries
          | none => return wrapped

def menuSource (items : Value) : Act World Menu.Source := do
  match items, Command.classify items with
  | .str _, .ok (.call name args) =>
      match ← n.request ⟨.functions, name, .arr args⟩ with
      | .ok (.ok value) => return .dynamic (.ok value)
      | .ok (.failed message) => return .dynamic (.error message)
      | .ok .abort => return .dynamic (.error "menu source aborted")
      | .error reason => return .dynamic (.error reason)
  | _, _ => return .ofValue items

/-- In blocking mode a value is shown, and there is nothing left to report. -/
def present (outcome : Outcome) : Act World Outcome := do
  match outcome with
  | .done value =>
      if ← isBlocking then
        n.display (.ofValue value)
        return .empty
      else return .done value
  | outcome => return outcome

/-- Launches a command that opens no menu and has no parts; of the others there is nothing to
launch here. -/
def launchSimple : Command → Act World Outcome
  | .empty | .menu _ | .sequence _ => return .empty
  | .call name args => n.invoke .functions name (.arr args)
  | .link target => return .relocated (← n.followLink target)
  | .openResource target => do n.present (← n.invoke .resources "open" (.str target))
  | .readResource target => n.invoke .resources "read" (.str target)
  | .workflow spec =>
      n.invoke .workflows (((spec.field? "name").bind Value.text?).getD "run") spec
  | .display value => do
      let payload := displayPayload (← Act.session) value
      if ← isBlocking then
        n.display payload
        return .empty
      else return .done (.obj [("display", payload.toValue)])
  | .dialog spec => do
      if ← isBlocking then n.invoke .dialogs "dialog" spec
      else return .done (.obj [("dialog", spec)])
  | .data record =>
      n.invoke .data ((Fields.text? record "action").getD "list") (.obj record)
  | .plain text => do
      if ← isBlocking then return .empty
      else return .ofValue (← n.plainValue text)
  | .malformed text flaw => return .refused .validation (malformedMessage text flaw)

/-- Launches what an item points at: a key of the current block, another block of the document, or
the target as a command of its own. -/
def launchItem (nested : String → Value → Act World Outcome) (item : Menu.Item) :
    Act World Outcome := do
  if item.back then return .back
  let asCommand : Act World Outcome :=
    match Command.classify (.str item.target) with
    | .ok (.plain _) => return .ofValue (.str item.target)
    | .ok command => n.launchSimple command
    | .error error => Act.refuse (.configuration item.target error.message)
  let session ← Act.session
  match session.location? with
  | none => asCommand
  | some location =>
      let document ← n.load location.path
      -- a key of the block hides a block of the same name
      match document.lookupKey? location.block item.target with
      | some (written, command) => nested written command
      | none =>
          if document.hasBlock item.target then
            let destination : Location := ⟨location.path, item.target⟩
            n.relocate destination "jump"
            return .relocated destination
          else asCommand

/-- Launches the selected items in order. A narrowed menu has selected nothing yet. -/
def launchSelection (item : Menu.Item → Act World Outcome) :
    Menu.Selection → Act World Outcome
  | .single selected => item selected
  | .multi items => collectAll item [] items
  | .narrowed _ => return .refused .validation "selection is still ambiguous"

def select (nested : String → Value → Act World Outcome) : Menu.Selection → Act World Outcome :=
  launchSelection (n.launchItem nested)

def selectPrompt : String := "Select"

/-- Draws a menu and asks until something is selected. Bad input is reported and asked for again,
and the end of input aborts. -/
def interact (select : Menu.Selection → Act World Outcome) :
    (rounds : Nat) → Menu.View → Act World Outcome
  | 0, _ => Act.exhaust
  | rounds + 1, view => do
      n.render view
      match ← n.prompt selectPrompt with
      | none => return .abort
      | some line =>
          match view.model.resolve line with
          | .ok (.narrowed model) => interact select rounds { view with model := model }
          | .ok selection => select selection
          | .error error =>
              n.display (.message error.message)
              interact select rounds view

/-- Builds a menu; it is asked for at once in blocking mode and left pending otherwise. -/
def openMenu (select : Menu.Selection → Act World Outcome) (key : String) (followUp : FollowUp)
    (spec : MenuSpec) : Act World Outcome := do
  let options : Menu.Options := ⟨spec.title, spec.allowBack && followUp.allowsBack, spec.multi⟩
  let source ← n.menuSource spec.items
  match Menu.build source options with
  | .error error =>
      let kind := match error with
        | .source _ => ErrorKind.action
        | .empty => .validation
      return .refused kind error.message
  | .ok model =>
      let session ← Act.session
      let view : Menu.View := ⟨model, n.settings.density, session.trail.map Location.text⟩
      if ← isBlocking then n.interact select n.patience.rounds view
      else
        let pending : PendingMenu := ⟨key, view, followUp⟩
        Act.modifySession fun session => session.setPending (.menu pending)
        return .pending pending.prompt

def launchAction (nested : String → Value → Act World Outcome) (key : String)
    (followUp : FollowUp) : Command → Act World Outcome
  | .menu spec => n.openMenu (n.select nested) key followUp spec
  | command => n.launchSimple command

mutual
def launchElement (nested : String → Value → Act World Outcome) (key : String) (index : Nat) :
    Value → Act World Outcome
  | .arr items => launchElements nested key 0 [] items
  | value => do
      match Command.classify value with
      | .error error =>
          Act.refuse (.configuration (key ++ "[" ++ toString index ++ "]") error.message)
      | .ok command =>
          let session ← Act.session
          n.launchAction nested key (.plain session.mode) command

/-- Launches the elements of a sequence in order and collects their values until one interrupts.
`index` counts the elements, `values` are those collected before. -/
def launchElements (nested : String → Value → Act World Outcome) (key : String) (index : Nat)
    (values : List Value) : List Value → Act World Outcome
  | [] => return collected values
  | element :: elements => do
      let outcome ← launchElement nested key index element
      if outcome.interrupts then return outcome
      else launchElements nested key (index + 1) (collect values outcome) elements
end

def launchWith (nested : String → Value → Act World Outcome) (key : String) (followUp : FollowUp) :
    Command → Act World Outcome
  | .sequence items => n.launchElements nested key 0 [] items
  | command => n.launchAction nested key followUp command

end Signpost.Navigator
