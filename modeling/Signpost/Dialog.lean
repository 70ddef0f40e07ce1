import Signpost.Host

/-! Dialogs with the user, line by line.

A question is repeated until it is answered with yes or no; the end of the input aborts. -/

namespace Signpost.Dialog

def answer? (line : String) : Option Bool :=
  match String.ofList ((Text.trimChars line.toList).map Char.toLower) with
  | "y" | "yes" => some true
  | "n" | "no" => some false
  | _ => none

variable {World : Type} (prompt : String → StateM World (Option String))
  (display : Payload → StateM World Unit)

/-- Asks a question. After so many useless answers the dialog is aborted. -/
def confirm (question : String) : (rounds : Nat) → StateM World Answer
  | 0 => return ⟨.ok .abort, []⟩
  | rounds + 1 => do
      let message := question ++ " [y/n]"
      let line ← prompt message
      let asked : Talk := .prompted message line
      match line with
      | none => return ⟨.ok .abort, [asked]⟩
      | some line =>
          match answer? line with
          | some yes => return ⟨.ok (.ok (.bool yes)), [asked]⟩
          | none =>
              let hint : Payload := .message "answer y or n"
              display hint
              let answer ← confirm question rounds
              return { answer with talk := asked :: .shown hint :: answer.talk }

def input (label : String) : StateM World Answer := do
  let line ← prompt label
  let reply : Reply := match line with
    | some line => .ok (.str line)
    | none => .abort
  return ⟨.ok reply, [.prompted label line]⟩

/-- Opens a dialog: text and `confirm` ask a question, `input` asks for a line. -/
def run (rounds : Nat) (spec : Value) : StateM World Answer :=
  match spec with
  | .str question => confirm prompt display question rounds
  | spec =>
      match (spec.field? "confirm").bind Value.text? with
      | some question => confirm prompt display question rounds
      | none =>
          match (spec.field? "input").bind Value.text? with
          | some label => input prompt label
          | none => return ⟨.ok (.failed ("unsupported dialog " ++ spec.text)), []⟩

end Signpost.Dialog
