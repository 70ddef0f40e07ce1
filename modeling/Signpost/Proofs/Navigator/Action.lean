import Signpost.Proofs.Navigator.Resumption

/-! Actions: commands that are one request to a collaborator.

An action leaves the session as it is, and the reply alone tells what it comes to. The log of a
course tells how often a collaborator has been asked and what has been shown. -/

namespace Signpost

/-- The request that an action makes. Opening a resource and a dialog are more than a request in one
of the modes. -/
def Command.request? : Command → Option Request
  | .call name args => some ⟨.functions, name, .arr args⟩
  | .readResource target => some ⟨.resources, "read", .str target⟩
  | .workflow spec =>
      some ⟨.workflows, ((spec.field? "name").bind Value.text?).getD "run", spec⟩
  | .data record => some ⟨.data, (Fields.text? record "action").getD "list", .obj record⟩
  | .empty | .link _ | .openResource _ | .display _ | .dialog _ | .menu _ | .sequence _ | .plain _
  | .malformed .. => none

/-- What a reply comes to. An action that could not run has failed. -/
def Outcome.ofReply : Except String Reply → Outcome
  | .ok (.ok value) => .ofValue value
  | .ok (.failed message) => .refused .action message
  | .ok .abort => .abort
  | .error reason => .refused .action reason

def Outcome.complaint : Outcome → String
  | .failed failure => failure.message
  | _ => ""

def Event.request? : Event → Option Request
  | .invoked request _ _ => some request
  | _ => none

def Event.shown? : Event → Option Payload
  | .talked (.shown payload) => some payload
  | _ => none

namespace Course

variable {World : Type}

def requests (course : Course World) : List Request := course.log.filterMap Event.request?

def shown (course : Course World) : List Payload := course.log.filterMap Event.shown?

end Course

namespace Navigator

open Act Session

variable {World : Type} (n : Navigator World) {nested : String → Value → Act World Outcome}
  {course after : Course World} {outcome : Outcome} {request : Request} {command : Command}

/-! ## Requests -/

def replyTo (request : Request) (course : Course World) : Except String Reply :=
  (n.host.invoke request course.session course.world).1.reply

def asked (request : Request) (course : Course World) : Course World :=
  (n.request request course).2

theorem request_run : n.request request course =
    (.ok (n.replyTo request course), n.asked request course) := rfl

theorem asked_requests : (n.asked request course).requests = request :: course.requests := rfl

theorem asked_shown : (n.asked request course).shown = course.shown := rfl

theorem invoke_run (collaborator : Collaborator) (name : String) (args : Value) :
    n.invoke collaborator name args course =
      (.ok (.ofReply (n.replyTo ⟨collaborator, name, args⟩ course)),
        n.asked ⟨collaborator, name, args⟩ course) := by
  refine (bind_ok n.request_run).trans ?_
  rcases n.replyTo ⟨collaborator, name, args⟩ course with reason | (value | message | _) <;> rfl

theorem launchWith_of_request (action : command.request? = some request) (key : String)
    (followUp : FollowUp) : n.launchWith nested key followUp command course =
      (.ok (.ofReply (n.replyTo request course)), n.asked request course) := by
  cases command with
  | call | readResource | workflow | data =>
    cases action
    exact n.invoke_run _ _ _
  | _ => cases action

/-! ## Dispatches -/

theorem commandOf_eq {followUp : FollowUp} (unmarked : followUp.autoMenu = false) (value : Value) :
    commandOf followUp value = Command.classify value := by
  unfold commandOf
  rw [unmarked]
  rfl

theorem finish_of_stays {followUp : FollowUp} (stays : followUp.autoReturn = false)
    (outcome : Outcome) : followUp.finish outcome = outcome := by
  unfold FollowUp.finish
  rw [stays]
  rfl

theorem dispatchWithin_eq {depth : Nat} {key : String} {value : Value} {mode : Mode}
    (here : course.session.mode = mode)
    (classified : commandOf ⟨(Key.read key).2, mode⟩ value = .ok command) :
    n.dispatchWithin (depth + 1) key value course = Act.restoring (n.launchKey
      (n.dispatchWithin depth) (Key.read key).1 ⟨(Key.read key).2, mode⟩ command) course := by
  subst here
  have read : FollowUp.ofKey course.session.mode key =
      ((Key.read key).1, ⟨(Key.read key).2, course.session.mode⟩) := rfl
  refine (bind_ok session_run).trans ?_
  simp only [read, classified]

theorem dispatchWithin_plain {depth : Nat} {key : String} {value : Value} {mode : Mode}
    (plain : Key.read key = (key, {})) (here : course.session.mode = mode)
    (classified : Command.classify value = .ok command) :
    n.dispatchWithin (depth + 1) key value course = Act.restoring (fun course =>
      n.launchWith (n.dispatchWithin depth) key (.plain mode) command course.unasked) course := by
  have unmarked : (⟨(Key.read key).2, mode⟩ : FollowUp) = .plain mode := by
    rw [plain]
    rfl
  have read : commandOf ⟨(Key.read key).2, mode⟩ value = .ok command := by
    rw [unmarked]
    exact classified
  rw [n.dispatchWithin_eq here read]
  refine restoring_congr ?_
  rw [launchKey_run, unmarked, plain]
  exact congrFun (bind_pure _) _

end Navigator

end Signpost
