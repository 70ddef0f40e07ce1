import Signpost.Command.Classify
import Signpost.Document
import Signpost.Link

/-! Checking a document without running it: every command is read, and links and menus are looked
at as far as the document itself can tell. -/

namespace Signpost

structure Problem where
  block : String
  key : String
  message : String
deriving DecidableEq, Repr, Inhabited

def Problem.text (p : Problem) : String := p.block ++ "." ++ p.key ++ ": " ++ p.message

namespace Check

/-- Whether a menu source can be seen to have no items. -/
def seemsEmpty : Value → Bool
  | .null => true
  | .str text => Text.blank text
  | .arr items => items.isEmpty
  | .obj fields => fields.isEmpty
  | _ => false

def menuMessages (spec : MenuSpec) : List String :=
  if seemsEmpty spec.items then ["menu has no items"] else []

def linkMessages (doc : Document) (written : String) : List String :=
  match Link.read written with
  | .error error => [error.message]
  | .ok ⟨.sameDocument, some block, _⟩ =>
      if doc.hasBlock block then []
      else ["link '" ++ written ++ "' names missing block '" ++ block ++ "'"]
  | .ok _ => []

mutual
def commandMessages (doc : Document) : Value → List String
  | .arr items => elementMessages doc items
  | value =>
      match Command.classify value with
      | .error error => [error.message]
      | .ok (.malformed text flaw) => [malformedMessage text flaw]
      | .ok (.link target) => linkMessages doc target
      | .ok (.menu spec) => menuMessages spec
      | .ok _ => []

def elementMessages (doc : Document) : List Value → List String
  | [] => []
  | item :: items => commandMessages doc item ++ elementMessages doc items
end

def entryMessages (doc : Document) (key : String) (command : Value) : List String :=
  match if (Key.read key).2.autoMenu then MenuSpec.ofMarked? command else none with
  | some spec => menuMessages spec
  | none => commandMessages doc command

def problems (doc : Document) : List Problem :=
  if doc.blocks.isEmpty then [⟨"", "", "document has no blocks"⟩]
  else doc.blocks.flatMap fun (block, entries) =>
    entries.flatMap fun (key, command) =>
      (entryMessages doc key command).map fun message => ⟨block, key, message⟩

end Check

end Signpost
