import Signpost.Files.Tree
import Signpost.Outcome
import Signpost.Value.Reader

/-! Tables of records, each in a file of its own.

The rows of a table are in the order in which they were inserted. A row that is inserted without an
id gets the one after the greatest id in the table. Ids have 64 bits: where there is none after the
greatest one, the addition overflows and the program stops. -/

namespace Signpost.Table

inductive Error where
  | invalidName (table : String)
  | malformed (path : String)
  | file (fault : FileFault)
  /-- No id comes after the greatest one; unlike the others, this one stops the program. -/
  | overflow
deriving DecidableEq, Repr, Inhabited

def Error.chain : Error → List String
  | invalidName table => ["invalid table name '" ++ table ++ "'"]
  | malformed path => ["parse " ++ path, "not a list of rows"]
  | file fault => fault.chain
  | overflow => ["attempt to add with overflow"]

/-- Letters and digits of ASCII, underscores and hyphens; at least one. -/
def validName (table : String) : Bool :=
  !table.isEmpty && table.toList.all fun c => c.isAlphanum || c == '_' || c == '-'

def path? (directory table : String) : Option String :=
  if validName table then some (Path.join directory (table ++ ".json")) else none

def hasId (id row : Value) : Bool :=
  match row.field? "id" with
  | some other => other.same id
  | none => false

/-- The id after the greatest one, unless that one is the last; one in a table without ids. -/
def nextId? (rows : List Value) : Option Nat :=
  match (rows.filterMap fun row => (row.field? "id").bind Value.natural?).max? with
  | some greatest => if greatest + 1 < Nat.pow 2 64 then some (greatest + 1) else none
  | none => some 1

def withId? (rows : List Value) (row : Fields) : Option Fields :=
  if Fields.has row "id" then some row
  else (nextId? rows).map fun next => row ++ [("id", .nat next)]

/-- What an action does to the rows of a table: its reply, and the new rows if they change. -/
structure Effect where
  reply : Reply
  rows : Option (List Value) := none

inductive Action where
  | list
  | get (id : Value)
  | insert (row : Fields)
  | delete (id : Value)

/-- The effect of an action on the rows of a table, unless the next id overflows. -/
def Action.effect? (table : String) (rows : List Value) : Action → Option Effect
  | list => some ⟨.ok (.arr rows), none⟩
  | get id =>
      match rows.find? (hasId id) with
      | some row => some ⟨.ok row, none⟩
      | none => some ⟨.failed ("no row " ++ id.text ++ " in '" ++ table ++ "'"), none⟩
  | insert row =>
      (withId? rows row).map fun row => ⟨.ok (.obj row), some (rows ++ [.obj row])⟩
  | delete id =>
      let kept := rows.filter fun row => !hasId id row
      let removed := rows.length - kept.length
      some ⟨.ok (.obj [("deleted", .nat removed)]), if removed = 0 then none else some kept⟩

def readRows (tree : FileTree) (path : String) : Except Error (List Value) :=
  if !tree.has path then .ok []
  else match tree.readText path with
    | .error e => .error (.file (.read path e))
    | .ok text =>
        match Value.read? text with
        | some (.arr rows) => .ok rows
        | _ => .error (.malformed path)

def text (rows : List Value) : String := (Value.arr rows).indented ++ "\n"

def run (tree : FileTree) (directory table : String) (action : Action) :
    Except Error Reply × FileTree :=
  match path? directory table with
  | none => (.error (.invalidName table), tree)
  | some path =>
      match readRows tree path with
      | .error e => (.error e, tree)
      | .ok rows =>
          match action.effect? table rows with
          | none => (.error .overflow, tree)
          | some ⟨reply, none⟩ => (.ok reply, tree)
          | some ⟨reply, some rows⟩ =>
              match tree.writeAtomic path (text rows) with
              | (some fault, tree) => (.error (.file fault), tree)
              | (none, tree) => (.ok reply, tree)

def tableOf? (record : Value) : Option String :=
  ((record.field? "table").or (record.field? "model")).bind Value.text?

def actionOf (name : String) (record : Value) : Except String Action :=
  let id := (record.field? "id").getD .null
  match name with
  | "list" => .ok .list
  | "get" => .ok (.get id)
  | "insert" =>
      match record.field? "row" with
      | some (.obj row) => .ok (.insert row)
      | _ => .error "insert needs a 'row' object"
  | "delete" => .ok (.delete id)
  | other => .error ("unknown data action '" ++ other ++ "'")

def invoke (directory name : String) (record : Value) (tree : FileTree) :
    Except Error Reply × FileTree :=
  match tableOf? record with
  | none => (.ok (.failed "data action needs a 'table'"), tree)
  | some table =>
      match actionOf name record with
      | .error message => (.ok (.failed message), tree)
      | .ok action => run tree directory table action

end Signpost.Table
