import Signpost.Outcome
import Signpost.Text.Utf8

/-! The terminal: how payloads are written, and how lines are read.

A table has a column for every field that occurs in a row, in the order in which the fields first
occur, and every row has a cell in every column. -/

namespace Signpost.Terminal

def addColumns (columns : List String) : List String → List String
  | [] => columns
  | name :: names =>
      addColumns (if columns.contains name then columns else columns ++ [name]) names

def addRow (columns : List String) : Value → List String
  | .obj fields => addColumns columns (Fields.names fields)
  | _ => columns

/-- The names of all fields, in the order in which they first occur. -/
def columnsOf (rows : List Value) : List String := rows.foldl addRow []

/-- The text of a cell: nothing for a field that is missing or null. -/
def cell (row : Value) (column : String) : String :=
  match row.field? column with
  | none | some .null => ""
  | some value => value.plain

def cells (rows : List Value) : List String × List (List String) :=
  let columns := columnsOf rows
  (columns, rows.map fun row => columns.map (cell row))

def line (cells : List String) : String := Text.join " | " cells

def tableText (rows : List Value) : String :=
  let (columns, rows) := cells rows
  let heading := line columns
  heading ++ "\n" ++ String.ofList (List.replicate heading.utf8ByteSize '-') ++ "\n" ++
    String.join (rows.map fun row => line row ++ "\n")

def text : Payload → String
  | .text s => s ++ "\n"
  | .table rows => tableText rows
  | .structured value => value.indented ++ "\n"
  | .message s => let written := "! " ++ s; if written.endsWith "\n" then written else written ++ "\n"

def promptText (message : String) : String := message ++ "> "

def takeLine : Text.Bytes → Text.Bytes × Text.Bytes
  | [] => ([], [])
  | b :: rest =>
      if b = 10 then ([b], rest)
      else
        let (line, rest) := takeLine rest
        (b :: line, rest)

def withoutBreaks (line : String) : String :=
  String.ofList
    ((line.toList.reverse.dropWhile fun c => c == '\r' || c == '\n').reverse)

def readLine (input : Text.Bytes) : Option String × Text.Bytes :=
  match input with
  | [] => (none, [])
  | input =>
      let (line, rest) := takeLine input
      ((Text.decode? line).map withoutBreaks, rest)

end Signpost.Terminal
