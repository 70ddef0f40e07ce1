import Signpost.Value.Text
import Signpost.Text.Basic

/-! Menu models: what can be chosen, and how it is built from a document value.

A model has at least one option. Where going back is allowed, the implicit back item is the last
one. -/

namespace Signpost

inductive Density where
  | full
  | simple
  | compact
deriving DecidableEq, Repr, Inhabited

def Density.name : Density → String
  | full => "full"
  | simple => "simple"
  | compact => "compact"

def Density.ofName? : String → Option Density
  | "full" => some .full
  | "simple" => some .simple
  | "compact" => some .compact
  | _ => none

namespace Menu

inductive SourceKind where
  | list
  | map
  | scalar
  | dynamic
deriving DecidableEq, Repr, Inhabited

def SourceKind.name : SourceKind → String
  | list => "list"
  | map => "map"
  | scalar => "scalar"
  | dynamic => "dynamic"

/-- Where the items come from. A dynamic source is what a function has answered, or why it did not
answer. -/
inductive Source where
  | list (items : List Value)
  | map (fields : Fields)
  | scalar (value : Value)
  | dynamic (produced : Except String Value)

def Source.kind : Source → SourceKind
  | list _ => .list
  | map _ => .map
  | scalar _ => .scalar
  | dynamic _ => .dynamic

def Source.ofValue : Value → Source
  | .arr items => .list items
  | .obj fields => .map fields
  | value => .scalar value

structure Options where
  title : Option String := none
  allowBack : Bool := false
  multi : Bool := false
deriving DecidableEq, Repr, Inhabited

structure Item where
  label : String
  target : String
  back : Bool := false
deriving DecidableEq, Repr, Inhabited

def backLabel : String := "zBack"

def backItem : Item := ⟨backLabel, backLabel, true⟩

structure Model where
  items : List Item
  title : Option String
  allowBack : Bool
  multi : Bool
  source : SourceKind
deriving DecidableEq, Repr, Inhabited

def Model.options (model : Model) : List Item := model.items.filter fun item => !item.back

/-- A model with its presentation; the banner shows the trail, oldest location first. -/
structure View where
  model : Model
  density : Density
  banner : List String
deriving DecidableEq, Repr, Inhabited

inductive Error where
  | source (reason : String)
  | empty
deriving DecidableEq, Repr, Inhabited

def Error.message : Error → String
  | source reason => "menu source failed: " ++ reason
  | empty => "menu has no options"

/-- The option a value stands for. Null, blank text and records without a label stand for none. -/
def itemOf? : Value → Option Item
  | .null => none
  | .str text => if Text.blank text then none else some ⟨text, text, false⟩
  | .obj fields =>
      (Fields.text? fields "label").map fun label =>
        ⟨label, (Fields.text? fields "target").getD label, false⟩
  | value => some ⟨value.text, value.text, false⟩

/-- The option of a labelled value: text that is not blank is the target, else the label is. -/
def itemOfField (field : String × Value) : Item :=
  match field.2 with
  | .str target => if Text.blank target then ⟨field.1, field.1, false⟩ else ⟨field.1, target, false⟩
  | _ => ⟨field.1, field.1, false⟩

def itemsOf : Value → List Item
  | .arr items => items.filterMap itemOf?
  | .obj fields => fields.map itemOfField
  | value => (itemOf? value).toList

def Source.items : Source → Except Error (List Item)
  | list items => .ok (items.filterMap itemOf?)
  | map fields => .ok (fields.map itemOfField)
  | scalar value => .ok (itemOf? value).toList
  | dynamic (.error reason) => .error (.source reason)
  | dynamic (.ok value) => .ok (itemsOf value)

def build (source : Source) (options : Options) : Except Error Model :=
  match source.items with
  | .error e => .error e
  | .ok [] => .error .empty
  | .ok items =>
      .ok {
        items := if options.allowBack then items ++ [backItem] else items
        title := options.title
        allowBack := options.allowBack
        multi := options.multi
        source := source.kind }

def Model.numbered (model : Model) : List (Nat × Item) :=
  (model.items.zipIdx 1).map fun (item, position) => (position, item)

def View.heading (view : View) : List String :=
  view.model.title.toList ++
    (if view.banner.isEmpty then [] else [Text.join " > " view.banner])

def View.text (view : View) : String :=
  match view.density with
  | .full =>
      String.join (view.heading.map (· ++ "\n")) ++
        String.join (view.model.numbered.map fun (position, item) =>
          "  " ++ toString position ++ ". " ++ item.label ++ "\n")
  | .simple =>
      String.join (view.model.numbered.map fun (position, item) =>
        toString position ++ ". " ++ item.label ++ "\n")
  | .compact =>
      Text.join " " (view.model.numbered.map fun (position, item) =>
        toString position ++ ":" ++ item.label) ++ "\n"

def Item.toValue (item : Item) : Value :=
  .obj ([("label", .str item.label), ("target", .str item.target)] ++
    (if item.back then [("back", .bool true)] else []))

def Model.toValue (model : Model) : Value :=
  .obj [("items", .arr (model.items.map Item.toValue)), ("title", .ofText? model.title),
    ("allow_back", .bool model.allowBack), ("multi", .bool model.multi),
    ("metadata", .obj [("source_kind", .str model.source.name)])]

def View.toValue (view : View) : Value :=
  .obj [("model", view.model.toValue), ("density", .str view.density.name),
    ("banner", .arr (view.banner.map .str))]

end Menu

end Signpost
