import Signpost.Command.Instruction

/-! Reading the value of a key as a command.

A record has exactly one action key, or none and a key that marks a data record. A value under the
auto-menu mark is a menu of itself wherever it has the shape of one. -/

namespace Signpost

namespace Command

def actionKeys : List String :=
  ["function", "link", "display", "dialog", "workflow", "read", "open", "menu"]

def dataKeys : List String := ["action", "table", "model"]

def functionKey? (key : String) : Option String :=
  match key.toList with
  | '@' :: c :: rest => some (String.ofList (c :: rest))
  | _ => none

def isActionKey (key : String) : Bool :=
  actionKeys.contains key || (functionKey? key).isSome

def isDataKey (key : String) : Bool := dataKeys.contains key

end Command

namespace MenuSpec

def ofRecord (record : Fields) : MenuSpec where
  items := (Fields.get? record "menu").getD .null
  title := Fields.text? record "title"
  allowBack := (Fields.bool? record "allow_back").getD true
  multi := (Fields.bool? record "multi").getD false

/-- The menu that a value stands for under the auto-menu mark: a list, a menu record, a record
without action and data keys, or plain text. -/
def ofMarked? : Value → Option MenuSpec
  | .arr [] => none
  | .arr items => some { items := .arr items }
  | .obj record =>
      if Fields.has record "menu" then some (ofRecord record)
      else if record.isEmpty ||
          (Fields.names record).any fun key => Command.isActionKey key || Command.isDataKey key then
        none
      else some { items := .obj record }
  | .str text =>
      if Text.blank text || Instruction.isInstruction text then none
      else some { items := .str text }
  | _ => none

end MenuSpec

namespace Command

def target (key : String) : Value → Except CommandError String
  | .str text =>
      if Text.blank text then .error (.invalid key "expected a non-empty string")
      else .ok (Text.trim text)
  | _ => .error (.invalid key "expected a non-empty string")

/-- The call of a record with the key `function`: an instruction, a name with arguments beside it,
or a record of both. -/
def ofFunction (value : Value) (record : Fields) : Except CommandError Command :=
  let invalid (reason : String) : Except CommandError Command := .error (.invalid "function" reason)
  match value with
  | .str text =>
      if Instruction.isInstruction text then
        match Instruction.read text with
        | .call name args => .ok (.call name args)
        | _ => invalid "expected a function name or call(..)"
      else if Text.blank text then invalid "expected a function name"
      else .ok (.call (Text.trim text) (((Fields.get? record "args").map positional).getD []))
  | .obj spec =>
      match Fields.text? spec "name" with
      | some name =>
          if Text.blank name then invalid "missing name"
          else .ok (.call (Text.trim name) (((Fields.get? spec "args").map positional).getD []))
      | none => invalid "missing name"
  | _ => invalid "expected a function name"

def ofAction (key : String) (value : Value) (record : Fields) : Except CommandError Command :=
  match functionKey? key with
  | some name => .ok (.call name (positional value))
  | none =>
      match key with
      | "function" => ofFunction value record
      | "link" => (target key value).map .link
      | "open" => (target key value).map .openResource
      | "read" => (target key value).map .readResource
      | "workflow" => .ok (.workflow value)
      | "display" => .ok (.display value)
      | "dialog" => .ok (.dialog value)
      | "menu" => .ok (.menu (.ofRecord record))
      | other => .error (.invalid other "unsupported action")

def ofRecord (record : Fields) : Except CommandError Command :=
  match record.filter fun (key, _) => isActionKey key with
  | [] =>
      if (Fields.names record).any isDataKey then .ok (.data record)
      else .error (.unrecognized (Fields.names record))
  | [(key, value)] => ofAction key value record
  | several => .error (.ambiguous (Fields.names several))

def classify : Value → Except CommandError Command
  | .null => .ok .empty
  | .bool true => .ok (.plain "true")
  | .bool false => .ok (.plain "false")
  | .num n => .ok (.plain n.text)
  | .str text => if Text.blank text then .ok .empty else .ok (Instruction.read text)
  | .arr [] => .ok .empty
  | .arr items => .ok (.sequence items)
  | .obj [] => .ok .empty
  | .obj record => ofRecord record

end Command

end Signpost
