import Signpost.Authorizer
import Signpost.Dialog
import Signpost.Function

/-! Ready-made collaborators, each put in place of what a host has.

Replacing one collaborator leaves the requests to all others as they were. -/

namespace Signpost

namespace Dialog

def unsupported : Reply := .failed "dialogs are not available here"

end Dialog

namespace Host

variable {World : Type} (host : Host World)

def withRoles : Host World :=
  { host with check := fun predicate identity => return Authorizer.grants predicate identity }

def answering (collaborator : Collaborator) (answer : Request → Session → StateM World Answer) :
    Host World :=
  { host with
    invoke := fun request session =>
      if request.collaborator = collaborator then answer request session
      else host.invoke request session }

def withFunctions (functions : Functions) : Host World :=
  host.answering .functions fun request session =>
    return ⟨.ok (functions.invoke request.name request.args session), []⟩

def withDialogs (rounds : Nat) : Host World :=
  host.answering .dialogs fun request _ => Dialog.run host.prompt host.display rounds request.args

def withoutDialogs : Host World :=
  host.answering .dialogs fun _ _ => return ⟨.ok Dialog.unsupported, []⟩

def detached : Host World :=
  { host with
    render := fun _ => return ()
    display := fun _ => return ()
    prompt := fun _ => return none }

end Host

end Signpost
