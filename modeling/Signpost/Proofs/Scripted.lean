import Signpost.Proofs.Host
import Signpost.Proofs.Library
import Signpost.Scripted

/-! What a script answers in a row.

The replies of a collaborator to a name come from one queue of the script, and nothing but a request
of this name takes one. -/

namespace Signpost.Script

def inTurn : List (Except String Reply) → Nat → Except String Reply
  | queue, 0 => (nextReply queue).1
  | queue, i + 1 => inTurn (nextReply queue).2 i

def queue (collaborator : Collaborator) (name : String)
    (replies : List ((Collaborator × String) × List (Except String Reply))) :
    List (Except String Reply) := (replies.lookup (collaborator, name)).getD []

def upcoming (request : Request) (script : Script) : Nat → Except String Reply :=
  inTurn (queue request.collaborator request.name script.replies)

variable {collaborator : Collaborator} {name : String}
  {replies : List ((Collaborator × String) × List (Except String Reply))}

theorem queue_cons (key : Collaborator × String) (entries : List (Except String Reply)) :
    queue collaborator name ((key, entries) :: replies) =
      if key = (collaborator, name) then entries else queue collaborator name replies := by
  unfold queue
  by_cases same : (collaborator, name) = key
  · subst same
    simp
  · have other : ((collaborator, name) == key) = false := beq_eq_false_iff_ne.mpr same
    rw [List.lookup_cons, other, if_neg (Ne.symm same)]

theorem take_queue : (take collaborator name replies).1 =
      (nextReply (queue collaborator name replies)).1 ∧
    queue collaborator name (take collaborator name replies).2 =
      (nextReply (queue collaborator name replies)).2 := by
  induction replies with
  | nil => exact ⟨rfl, rfl⟩
  | cons entry rest ih =>
    obtain ⟨key, entries⟩ := entry
    unfold take
    by_cases same : key = (collaborator, name)
    · simp only [queue_cons, if_pos same]
      exact ⟨trivial, trivial⟩
    · simp only [queue_cons, if_neg same]
      exact ih

/-- The replies to a request do not depend on who makes it, and showing something takes none. -/
theorem host_replies (request : Request) : host.Replies request (upcoming request) where
  first _ _ := take_queue.1
  next _ _ i := congrFun (congrArg inTurn take_queue.2) i
  shown _ _ _ := rfl

/-- The input is written down, whatever is loaded. -/
theorem host_reads (library : Library) : (host.withLibrary library).Reads lines where
  read _ _ := rfl
  left _ _ := rfl
  render _ _ := rfl
  display _ _ := rfl
  functions _ _ _ _ := rfl

theorem host_spends : host.Spends fun script => script.lines.length where
  load _ _ := Nat.le_refl _
  check _ _ _ := Nat.le_refl _
  render _ _ := Nat.le_refl _
  display _ _ := Nat.le_refl _
  invoke _ _ _ := Nat.le_refl _
  prompt _ script := by
    change script.lines.tail.length ≤ script.lines.length
    simp
  read _ script line first := by
    change script.lines.head? = some line at first
    change script.lines.tail.length < script.lines.length
    cases left : script.lines with
    | nil =>
      rw [left] at first
      cases first
    | cons => simp

theorem host_alike (library : Library) :
    (host.withLibrary library).Alike fun script other => other.replies = script.replies where
  load _ _ _ same := same
  reply request _ _ _ _ same _ :=
    congrArg (fun left => (take request.collaborator request.name left).1) same.symm
  invoke request _ _ _ _ same _ :=
    congrArg (fun left => (take request.collaborator request.name left).2) same
  talks _ := ⟨fun _ _ same => same, fun _ _ same => same, fun _ _ same => same⟩

end Signpost.Script
