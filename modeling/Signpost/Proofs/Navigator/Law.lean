import Signpost.Proofs.Command
import Signpost.Proofs.Library
import Signpost.Proofs.Navigator.NonBlocking

/-! Laws of navigation.

A law is a property of acts that holds of the requests of navigation and of its changes to a session,
and that is kept when acts are put together. What it says of the parts it says of every launch,
dispatch and answer, however deep they nest: each of them is taken apart here once, for all laws.

Some properties hold only as long as something is known of the sessions, documents and commands that
navigation meets. What is known is a premise of the law. -/

namespace Signpost

/-- What is known of the sessions that acts begin with, of the documents that are loaded, of the
entries found there, and of the elements of sequences. -/
structure Premises where
  session : Session → Prop := fun _ => True
  document : String → Document → Prop := fun _ _ => True
  entry : String → Value → Prop := fun _ _ => True
  element : Value → Prop := fun _ => True
  /-- Entries are found in the blocks of documents. -/
  entry_of_block : ∀ {path block key : String} {doc : Document} {entries : Block} {value : Value},
    document path doc → doc.block? block = some entries → (key, value) ∈ entries →
      entry key value := by
    exact fun _ _ _ => trivial
  /-- A sequence of an entry has elements of which as much is known. -/
  element_of_entry : ∀ {mode : Mode} {key : String} {value : Value} {items : List Value},
    entry key value →
      Navigator.commandOf (FollowUp.ofKey mode key).2 value = .ok (.sequence items) →
        ∀ item ∈ items, element item := by
      exact fun _ _ _ _ => trivial
  element_of_list : ∀ {items : List Value}, element (.arr items) → ∀ item ∈ items, element item := by
    exact fun _ _ _ => trivial
  /-- The session knows which sequence it launches again. -/
  element_of_pending : ∀ {s : Session} {pending : PendingRetry} {items : List Value}, session s →
    s.pending = some (.retry pending) → pending.command = .sequence items →
      ∀ item ∈ items, element item := by
    exact fun _ _ _ _ _ => trivial

namespace Premises

def nothing : Premises := {}

variable (known : Premises)

theorem entry_of_lookup {path block key written : String} {doc : Document} {value : Value}
    (loaded : known.document path doc) (found : doc.lookupKey? block key = some (written, value)) :
    known.entry written value := by
  obtain ⟨entries, named, member⟩ := Document.mem_of_lookupKey? found
  exact known.entry_of_block loaded named member

/-- What is known of a command: only sequences have elements. -/
def Fits (command : Command) : Prop :=
  ∀ items, command = .sequence items → ∀ item ∈ items, known.element item

def Waits : Pending → Prop
  | .menu _ => True
  | .retry pending => known.Fits pending.command

/-- An entry or an element that cannot be read as a command, in spite of what is known of it. -/
inductive Misread (error : CommandError) : Prop where
  | entry (mode : Mode) (key : String) (value : Value) : known.entry key value →
      Navigator.commandOf (FollowUp.ofKey mode key).2 value = .error error → Misread error
  | element (value : Value) : known.element value → Command.classify value = .error error →
      Misread error

end Premises

/-- A property of acts that holds of requests, refusals and changes, and is kept when acts are put
together. -/
structure Law {World : Type} (n : Navigator World) (known : Premises)
    (holds : (α : Type) → Act World α → Prop) : Prop where
  pure : ∀ {α : Type} (a : α), holds α (Pure.pure a)
  exhaust : ∀ {α : Type}, holds α Act.exhaust
  bind : ∀ {α β : Type} {act : Act World α} {next : α → Act World β} {kind : α → Prop},
    holds α act → act.Yields kind → (∀ a, kind a → holds β (next a)) → holds β (act >>= next)
  session : ∀ {β : Type} {next : Session → Act World β},
    (∀ s, known.session s → holds β (next s)) → holds β (Act.session >>= next)
  attempt : holds _ (Act.attempt n.currentDocument)
  restoring : ∀ {α : Type} {act : Act World α}, holds α act → holds α (Act.restoring act)
  keepingPending : ∀ {pending : Pending} {act : Act World Outcome}, known.Waits pending →
    holds _ act → holds _ (Navigator.keepingPending pending act)
  noDocument : ∀ {α : Type}, holds α (Act.refuse .noDocument)
  keyNotFound : ∀ {α : Type} (block key : String), holds α (Act.refuse (.keyNotFound block key))
  misread : ∀ {α : Type} (key : String) {error : CommandError}, known.Misread error →
    holds α (Act.refuse (.configuration key error.message))
  load : ∀ path, holds _ (n.load path)
  loads : ∀ path, (n.load path).Yields (known.document path)
  request : ∀ request, holds _ (n.request request)
  render : ∀ view, holds _ (n.render view)
  display : ∀ payload, holds _ (n.display payload)
  prompt : ∀ message, holds _ (n.prompt message)
  followLink : ∀ written, holds _ (n.followLink written)
  jump : ∀ {s : Session} {location : Location} {document : Document} {block : String},
    known.session s → s.location? = some location → known.document location.path document →
      document.hasBlock block = true → holds _ (n.relocate ⟨location.path, block⟩ "jump")
  clear : holds _ (Act.modifySession Session.clearPending)
  anchor : holds _ (Act.modifySession fun session => session.checkpoint.2)
  pend : ∀ {pending : Pending}, known.Waits pending →
    holds _ (Act.modifySession fun session => session.setPending pending)

namespace Law

open Navigator

variable {World : Type} {n : Navigator World} {known : Premises}
  {holds : (α : Type) → Act World α → Prop} (law : Law n known holds)

include law

theorem andThen {α β : Type} {act : Act World α} {next : α → Act World β} (first : holds α act)
    (rest : ∀ a, holds β (next a)) : holds β (act >>= next) :=
  law.bind first (fun _ _ _ => trivial : act.Yields fun _ => True) fun a _ => rest a

/-! ## Requests -/

theorem currentDocument : holds _ n.currentDocument := by
  refine law.session fun s _ => ?_
  cases s.location? with
  | none => exact law.noDocument
  | some location => exact law.andThen (law.load _) fun _ => law.pure _

theorem isBlocking : holds _ Navigator.isBlocking := law.session fun _ _ => law.pure _

theorem plainValue (text : String) : holds _ (n.plainValue text) := by
  refine law.andThen law.attempt fun found => ?_
  rcases found with error | ⟨document, block⟩
  · exact law.pure _
  · dsimp only
    split
    · exact law.pure _
    · split <;> exact law.pure _

theorem menuSource (items : Value) : holds _ (n.menuSource items) := by
  unfold Navigator.menuSource
  split
  · refine law.andThen (law.request _) fun reply => ?_
    rcases reply with reason | (value | message | _) <;> exact law.pure _
  · exact law.pure _

theorem invoke (collaborator : Collaborator) (name : String) (args : Value) :
    holds _ (n.invoke collaborator name args) := by
  refine law.andThen (law.request _) fun reply => ?_
  rcases reply with reason | (value | message | _) <;> exact law.pure _

theorem ifBlocking {next : Bool → Act World Outcome} (shown : holds _ (next true))
    (unshown : holds _ (next false)) : holds _ (Navigator.isBlocking >>= next) :=
  law.andThen law.isBlocking fun blocking => by
    cases blocking
    · exact unshown
    · exact shown

theorem present (outcome : Outcome) : holds _ (n.present outcome) := by
  unfold Navigator.present
  split
  next value =>
    exact law.ifBlocking (law.andThen (law.display _) fun _ => law.pure _) (law.pure _)
  next => exact law.pure _

/-! ## Launching -/

theorem launchSimple (command : Command) : holds _ (n.launchSimple command) := by
  cases command with
  | empty | menu | sequence | malformed => exact law.pure _
  | call | readResource | workflow | data => exact law.invoke _ _ _
  | link target => exact law.andThen (law.followLink target) fun _ => law.pure _
  | openResource target => exact law.andThen (law.invoke _ _ _) law.present
  | display value =>
    refine law.session fun s _ => ?_
    exact law.ifBlocking (law.andThen (law.display _) fun _ => law.pure _) (law.pure _)
  | dialog spec => exact law.ifBlocking (law.invoke _ _ _) (law.pure _)
  | plain text =>
    exact law.ifBlocking (law.pure _) (law.andThen (law.plainValue text) fun _ => law.pure _)

theorem collectAll {α : Type} {launch : α → Act World Outcome} (part : ∀ a, holds _ (launch a))
    (parts : List α) (values : List Value) :
    holds _ (Navigator.collectAll launch values parts) := by
  induction parts generalizing values with
  | nil => exact law.pure _
  | cons a parts ih =>
    refine law.andThen (part a) fun outcome => ?_
    split
    · exact law.pure _
    · exact ih (collect values outcome)

section Nested

variable {nested : String → Value → Act World Outcome}
  (inner : ∀ key value, known.entry key value → holds _ (nested key value))

include inner

theorem launchItem (item : Menu.Item) : holds _ (n.launchItem nested item) := by
  unfold Navigator.launchItem
  split
  next => exact law.pure _
  next =>
    extract_lets asCommand
    have plain : holds _ asCommand := by
      unfold asCommand
      split
      next => exact law.pure _
      next => exact law.launchSimple _
      next misread => exact absurd misread (Command.classify_str_ne_error _ _)
    refine law.session fun s here => ?_
    split
    next => exact plain
    next location located =>
      refine law.bind (law.load _) (law.loads _) fun document loaded => ?_
      split
      next written command found =>
        exact inner written command (known.entry_of_lookup loaded found)
      next =>
        split
        next present =>
          exact law.andThen (law.jump here located loaded present) fun _ => law.pure _
        next => exact plain

theorem select (selection : Menu.Selection) : holds _ (n.select nested selection) := by
  have launched := law.launchItem inner
  cases selection with
  | single item => exact launched item
  | multi items => exact law.collectAll launched items []
  | narrowed => exact law.pure _

omit inner in
theorem interact {select : Menu.Selection → Act World Outcome}
    (selected : ∀ selection, holds _ (select selection)) (rounds : Nat) (view : Menu.View) :
    holds _ (n.interact select rounds view) := by
  induction rounds generalizing view with
  | zero => exact law.exhaust
  | succ rounds ih =>
    refine law.andThen (law.render _) fun _ => law.andThen (law.prompt _) fun answer => ?_
    cases answer with
    | none => exact law.pure _
    | some line =>
      dsimp only
      split
      next model _ => exact ih { view with model := model }
      next selection _ _ => exact selected selection
      next => exact law.andThen (law.display _) fun _ => ih view

omit inner in
theorem openMenu {select : Menu.Selection → Act World Outcome}
    (selected : ∀ selection, holds _ (select selection)) (key : String) (followUp : FollowUp)
    (spec : MenuSpec) : holds _ (n.openMenu select key followUp spec) := by
  unfold Navigator.openMenu
  refine law.andThen (law.menuSource _) fun source => ?_
  split
  next => exact law.pure _
  next model _ =>
    refine law.session fun s _ => law.ifBlocking (law.interact selected _ _) ?_
    exact law.andThen (law.pend trivial) fun _ => law.pure _

theorem launchAction (key : String) (followUp : FollowUp) (command : Command) :
    holds _ (n.launchAction nested key followUp command) := by
  unfold Navigator.launchAction
  split
  next spec => exact law.openMenu (law.select inner) key followUp spec
  next => exact law.launchSimple _

omit inner

mutual

theorem launchElement (inner : ∀ key value, known.entry key value → holds _ (nested key value))
    (key : String) (index : Nat) (value : Value) (element : known.element value) :
    holds _ (n.launchElement nested key index value) := by
  by_cases composite : ∃ items, value = .arr items
  · obtain ⟨items, rfl⟩ := composite
    unfold Navigator.launchElement
    exact launchElements inner key 0 [] items (known.element_of_list element)
  · have leaf := not_exists.mp composite
    cases classified : Command.classify value with
    | error error =>
      rw [n.launchElement_of_error leaf classified]
      exact law.misread _ (.element value element classified)
    | ok command =>
      rw [n.launchElement_of_ok leaf classified]
      exact law.session fun _ _ => law.launchAction inner key _ command

theorem launchElements (inner : ∀ key value, known.entry key value → holds _ (nested key value))
    (key : String) (index : Nat) (values elements : List Value)
    (each : ∀ element ∈ elements, known.element element) :
    holds _ (n.launchElements nested key index values elements) := by
  cases elements with
  | nil => exact law.pure _
  | cons element elements =>
    unfold Navigator.launchElements
    refine law.andThen (launchElement inner key index element (each element List.mem_cons_self))
      fun outcome => ?_
    split
    · exact law.pure _
    · exact launchElements inner key (index + 1) _ elements fun item member =>
        each item (List.mem_cons_of_mem _ member)

end

include inner

theorem launchWith (key : String) (followUp : FollowUp) {command : Command}
    (fits : known.Fits command) : holds _ (n.launchWith nested key followUp command) := by
  unfold Navigator.launchWith
  split
  next items => exact law.launchElements inner key 0 [] items (fits items rfl)
  next => exact law.launchAction inner key followUp _

/-! ## Dispatching -/

omit inner in
theorem launchRequired {launch : Act World Outcome} (launched : holds _ launch) (key : String)
    {command : Command} (fits : known.Fits command) (followUp : FollowUp) (rounds attempts : Nat) :
    holds _ (n.launchRequired launch key command followUp rounds attempts) := by
  induction rounds generalizing attempts with
  | zero => exact law.exhaust
  | succ rounds ih =>
    refine law.andThen launched fun outcome => ?_
    cases outcome with
    | failed failure =>
      dsimp only
      split
      next => exact law.pure _
      next =>
        split
        next => exact law.andThen (law.pend fits) fun _ => law.pure _
        next => exact law.andThen (law.display _) fun _ => ih (attempts + 1)
    | _ => exact law.pure _

theorem launchKey (key : String) (followUp : FollowUp) {command : Command}
    (fits : known.Fits command) : holds _ (n.launchKey nested key followUp command) := by
  have launched := law.launchWith inner key followUp fits
  rw [launchKey_eq]
  refine law.andThen law.clear fun _ => law.andThen ?anchored fun _ => law.andThen ?_ fun _ =>
    law.pure _
  case anchored =>
    split
    · exact law.anchor
    · exact law.pure _
  split
  · exact law.launchRequired launched key fits followUp _ _
  · exact launched

theorem dispatchWith (key : String) (value : Value) (entry : known.entry key value) :
    holds _ (n.dispatchWith nested key value) := by
  refine law.session fun s _ => ?_
  cases read : commandOf (FollowUp.ofKey s.mode key).2 value with
  | error error =>
    simp only [FollowUp.ofKey] at read ⊢
    simp only [read]
    exact law.misread _ (.entry s.mode key value entry read)
  | ok command =>
    have fits : known.Fits command := fun items sequence =>
      known.element_of_entry entry (sequence ▸ read)
    simp only [FollowUp.ofKey] at read ⊢
    simp only [read]
    exact law.restoring (law.launchKey inner _ _ fits)

end Nested

/-- However deep dispatches nest. -/
theorem dispatchWithin (depth : Nat) (key : String) (value : Value)
    (entry : known.entry key value) : holds _ (n.dispatchWithin depth key value) := by
  induction depth generalizing key value with
  | zero => exact law.exhaust
  | succ depth ih => exact law.dispatchWith ih key value entry

theorem dispatch (key : String) (value : Value) (entry : known.entry key value) :
    holds _ (n.dispatch key value) :=
  law.dispatchWithin _ key value entry

theorem currentDocument_yields :
    n.currentDocument.Yields fun found => ∃ path, known.document path found.1 := by
  refine Act.Yields.last fun s => ?_
  cases s.location? with
  | none => exact .of_halt fun _ => ⟨_, rfl⟩
  | some location => exact .bind (law.loads _) fun document loaded => .pure ⟨_, loaded⟩

theorem dispatchKey (key : String) : holds _ (n.dispatchKey key) := by
  refine law.bind law.currentDocument law.currentDocument_yields fun found => ?_
  rintro ⟨path, loaded⟩
  dsimp only
  split
  next => exact law.keyNotFound _ _
  next written value looked => exact law.dispatch _ _ (known.entry_of_lookup loaded looked)

theorem launch {command : Command} (fits : known.Fits command) : holds _ (n.launch command) :=
  law.session fun _ _ => law.launchWith law.dispatch _ _ fits

/-! ## Answering -/

theorem retry {pending : PendingRetry} (fits : known.Fits pending.command) :
    holds _ (n.retry pending) := by
  have launched := law.launchWith law.dispatch pending.key pending.followUp fits
  refine law.andThen (law.keepingPending fits (law.restoring launched)) fun outcome => ?_
  split
  · exact law.pure _
  · split
    · exact law.pure _
    · exact law.andThen (law.pend fits) fun _ => law.pure _

theorem answer (pending : PendingMenu) (line : String) : holds _ (n.answer pending line) := by
  unfold Navigator.answer
  split
  next => exact law.andThen (law.pend trivial) fun _ => law.pure _
  next => exact law.andThen (law.pend trivial) fun _ => law.pure _
  next selection _ _ =>
    have selected := law.select law.dispatch selection
    refine law.andThen (law.keepingPending trivial selected) fun outcome => ?_
    split
    · exact law.andThen (law.pend trivial) fun _ => law.pure _
    · exact law.pure _

theorem resume (line : String) : holds _ (n.resume line) := by
  refine law.session fun s here => law.andThen law.clear fun _ => ?_
  split
  next => exact law.pure _
  next pending waits =>
    exact law.retry fun items sequence => known.element_of_pending here waits sequence
  next pending _ => exact law.answer pending line

end Law

end Signpost
