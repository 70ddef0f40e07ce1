import Signpost.Menu.Basic
import Signpost.Text.Case
import Signpost.Text.Basic

/-! What an input line selects from a menu.

A number is a position; other text is a label, or part of exactly one label, in any letter case.
`/needle` narrows the menu to the labels that hold the needle. Nothing is ever selected by
default. -/

namespace Signpost.Menu

inductive Selection where
  | single (item : Item)
  | multi (items : List Item)
  | narrowed (model : Model)
deriving DecidableEq, Repr, Inhabited

inductive SelectionError where
  | emptyInput
  | outOfRange (index size : Nat)
  | noMatch (input : String)
  | ambiguous (input : String) (candidates : List String)
  | multiNotAllowed
deriving DecidableEq, Repr, Inhabited

def SelectionError.message : SelectionError → String
  | emptyInput => "no selection entered"
  | outOfRange index size =>
      "selection " ++ toString index ++ " is out of range (1-" ++ toString size ++ ")"
  | noMatch input => "no option matches '" ++ input ++ "'"
  | ambiguous input candidates =>
      "'" ++ input ++ "' matches several options: " ++ Text.join ", " candidates
  | multiNotAllowed => "this menu accepts a single selection"

def Item.holds (item : Item) (lowered : String) : Bool :=
  Text.occurs lowered.toList (Text.lower item.label).toList

def Model.pick (model : Model) (input : String) : Except SelectionError Item :=
  if input.isEmpty then .error .emptyInput
  else match Text.count? input with
    | some 0 => .error (.outOfRange 0 model.items.length)
    | some (index + 1) =>
        match model.items[index]? with
        | some item => .ok item
        | none => .error (.outOfRange (index + 1) model.items.length)
    | none =>
        let lowered := Text.lower input
        match model.items.find? fun item => Text.lower item.label == lowered with
        | some item => .ok item
        | none =>
            match model.items.filter (·.holds lowered) with
            | [] => .error (.noMatch input)
            | [item] => .ok item
            | items => .error (.ambiguous input (items.map (·.label)))

/-- The model with only those options whose label holds the needle; the back item stays. -/
def Model.narrow (model : Model) (needle : String) : Model :=
  let lowered := Text.lower (Text.trim needle)
  { model with items := model.items.filter fun item => item.back || item.holds lowered }

def Model.pickAll (model : Model) : List (List Char) → Except SelectionError (List Item)
  | [] => .ok []
  | entry :: entries =>
      match model.pick (String.ofList (Text.trimChars entry)) with
      | .error e => .error e
      | .ok item =>
          match model.pickAll entries with
          | .error e => .error e
          | .ok items => .ok (item :: items)

def Model.resolve (model : Model) (line : String) : Except SelectionError Selection :=
  match Text.trimChars line.toList with
  | [] => .error .emptyInput
  | '/' :: needle =>
      let narrowed := model.narrow (String.ofList needle)
      match narrowed.options with
      | [] => .error (.noMatch (Text.trim (String.ofList needle)))
      | [item] => .ok (.single item)
      | _ => .ok (.narrowed narrowed)
  | input =>
      if input.contains ',' then
        if model.multi then (model.pickAll (Text.fields ',' input)).map .multi
        else .error .multiNotAllowed
      else (model.pick (String.ofList input)).map .single

end Signpost.Menu
