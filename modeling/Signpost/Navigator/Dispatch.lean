import Signpost.Navigator.Launch

/-! Dispatching a key.

The value is read as a command before anything changes, and a refused dispatch puts the session
back. Dispatches nest only through menu items, so their depth bounds the recursion. -/

namespace Signpost.Navigator

variable {World : Type} (n : Navigator World)

/-- Whether a required command that was launched so often counts as failed. -/
def isGivenUp (attempts : Nat) : Bool :=
  n.settings.retryLimit != 0 && n.settings.retryLimit ≤ attempts

/-- Launches a required command until it does not fail. In non-blocking mode the next attempt waits
for the client. `attempts` counts the launches before. -/
def launchRequired (launch : Act World Outcome) (key : String) (command : Command)
    (followUp : FollowUp) : (rounds attempts : Nat) → Act World Outcome
  | 0, _ => Act.exhaust
  | rounds + 1, attempts => do
      match ← launch with
      | .failed failure =>
          if n.isGivenUp (attempts + 1) then return .failed failure
          else if followUp.mode = .nonBlocking then
            Act.modifySession fun session =>
              session.setPending (.retry ⟨key, command, followUp, attempts + 1⟩)
            return .failed failure
          else
            n.display (.message failure.message)
            launchRequired launch key command followUp rounds (attempts + 1)
      | outcome => return outcome

/-- The command of a key: under the auto-menu mark a menu, where the value has the shape of one. -/
def commandOf (followUp : FollowUp) (value : Value) : Except CommandError Command :=
  match if followUp.autoMenu then MenuSpec.ofMarked? value else none with
  | some spec => .ok (.menu spec)
  | none => Command.classify value

def launchKey (nested : String → Value → Act World Outcome) (key : String) (followUp : FollowUp)
    (command : Command) : Act World Outcome := do
  Act.modifySession Session.clearPending
  if followUp.anchor then Act.modifySession fun session => session.checkpoint.2
  let launch := n.launchWith nested key followUp command
  let outcome ←
    if followUp.required then
      n.launchRequired launch key command followUp n.patience.rounds 0
    else launch
  return followUp.finish outcome

def dispatchWith (nested : String → Value → Act World Outcome) (key : String) (value : Value) :
    Act World Outcome := do
  let session ← Act.session
  let (bare, followUp) := FollowUp.ofKey session.mode key
  match commandOf followUp value with
  | .error error => Act.refuse (.configuration bare error.message)
  | .ok command => Act.restoring (n.launchKey nested bare followUp command)

def dispatchWithin : (depth : Nat) → (key : String) → Value → Act World Outcome
  | 0, _, _ => Act.exhaust
  | depth + 1, key, value => n.dispatchWith (dispatchWithin depth) key value

def dispatch (key : String) (value : Value) : Act World Outcome :=
  n.dispatchWithin n.patience.depth key value

def dispatchKey (key : String) : Act World Outcome := do
  let (document, block) ← n.currentDocument
  match document.lookupKey? block key with
  | none => Act.refuse (.keyNotFound block key)
  | some (written, command) => n.dispatch written command

def launch (command : Command) : Act World Outcome := do
  let session ← Act.session
  n.launchWith n.dispatch "" (.plain session.mode) command

/-- Puts pending input back after a refused act. The other changes of the act stay. -/
def keepingPending {α : Type} (pending : Pending) (act : Act World α) : Act World α :=
  fun course =>
    match act course with
    | (.error halt, after) =>
        (.error halt, { after with session := after.session.setPending pending })
    | result => result

def retry (pending : PendingRetry) : Act World Outcome := do
  let launched ← keepingPending (.retry pending)
    (Act.restoring (n.launchWith n.dispatch pending.key pending.followUp pending.command))
  if !launched.isFailure then return pending.followUp.finish launched
  else if n.isGivenUp (pending.attempts + 1) then return launched
  else
    Act.modifySession fun session =>
      session.setPending (.retry { pending with attempts := pending.attempts + 1 })
    return launched

/-- Answers a pending menu. Bad input and a required selection that fails leave it pending. -/
def answer (pending : PendingMenu) (line : String) : Act World Outcome := do
  match pending.view.model.resolve line with
  | .error error =>
      Act.modifySession fun session => session.setPending (.menu pending)
      return .refused .validation error.message
  | .ok (.narrowed model) =>
      let narrowed := { pending with view := { pending.view with model := model } }
      Act.modifySession fun session => session.setPending (.menu narrowed)
      return .pending narrowed.prompt
  | .ok selection =>
      let outcome ← keepingPending (.menu pending) (n.select n.dispatch selection)
      if pending.followUp.required && outcome.isFailure then
        Act.modifySession fun session => session.setPending (.menu pending)
        return outcome
      else return pending.followUp.finish outcome

/-- Answers what is pending. A pending retry is launched whatever the line is. -/
def resume (line : String) : Act World Outcome := do
  let session ← Act.session
  Act.modifySession Session.clearPending
  match session.pending with
  | none => return .refused .validation "nothing is waiting for input"
  | some (.retry pending) => n.retry pending
  | some (.menu pending) => n.answer pending line

end Signpost.Navigator
