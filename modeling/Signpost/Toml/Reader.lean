import Signpost.Toml.Scalar

/-! A TOML document as a record.

Tables are built up entry by entry. A name may be given a value only once, a header may open a table
only once, and dotted keys do not reach into tables that a header has opened. Lists and inline tables
nest at most `nesting` levels deep, and no key has more than `nesting` parts. -/

namespace Signpost.Toml

def nesting : Nat := 80

inductive Origin where
  /-- As part of a longer header. -/
  | implied
  | header
  /-- As part of a dotted key. -/
  | dotted
deriving DecidableEq, Repr

inductive Entry where
  | value (value : Datum)
  | table (origin : Origin) (fields : List (String × Entry))
  | tables (items : List (List (String × Entry)))
deriving Repr

abbrev Table := List (String × Entry)

def alter (name : String) (change : Option Entry → Option Entry) : Table → Option Table
  | [] => (change none).map fun entry => [(name, entry)]
  | (other, entry) :: rest =>
      if other = name then (change (some entry)).map fun entry => (other, entry) :: rest
      else (alter name change rest).map fun rest => (other, entry) :: rest

def alterLast (change : Table → Option Table) (items : List Table) : Option Entry :=
  match items.getLast? with
  | some last => (change last).map fun last => .tables (items.dropLast ++ [last])
  | none => none

def setKey (value : Datum) : List String → Table → Option Table
  | [], _ => none
  | [name], table => alter name (fun
      | none => some (.value value)
      | some _ => none) table
  | name :: names, table => alter name (fun
      | none => (setKey value names []).map (.table .dotted)
      | some (.table .dotted fields) => (setKey value names fields).map (.table .dotted)
      | some (.table .implied fields) =>
          if names.length = 1 then none else (setKey value names fields).map (.table .implied)
      | some (.tables items) =>
          if names.length = 1 then none else alterLast (setKey value names) items
      | some _ => none) table

def openTable : List String → Table → Option Table
  | [], _ => none
  | [name], table =>
      match table.lookup name with
      | none => some (table ++ [(name, .table .header [])])
      | some (.table .implied fields) =>
          some (table.filter (·.1 != name) ++ [(name, .table .header fields)])
      | some _ => none
  | name :: names, table => alter name (fun
      | none => (openTable names []).map (.table .implied)
      | some (.table origin fields) => (openTable names fields).map (.table origin)
      | some (.tables items) => alterLast (openTable names) items
      | some (.value _) => none) table

def appendTable : List String → Table → Option Table
  | [], _ => none
  | [name], table => alter name (fun
      | none => some (.tables [[]])
      | some (.tables items) => some (.tables (items ++ [[]]))
      | some _ => none) table
  | name :: names, table => alter name (fun
      | none => (appendTable names []).map (.table .implied)
      | some (.table origin fields) => (appendTable names fields).map (.table origin)
      | some (.tables items) => alterLast (appendTable names) items
      | some (.value _) => none) table

def within (change : Table → Option Table) : List String → Table → Option Table
  | [], table => change table
  | name :: names, table => alter name (fun
      | some (.table origin fields) => (within change names fields).map (.table origin)
      | some (.tables items) => alterLast (within change names) items
      | _ => none) table

mutual
def Entry.toDatum : Entry → Datum
  | .value value => value
  | .table _ fields => .record (dataOf fields)
  | .tables items => .list (recordsOf items)

def dataOf : List (String × Entry) → List (String × Datum)
  | [] => []
  | (name, entry) :: rest => (name, entry.toDatum) :: dataOf rest

def recordsOf : List (List (String × Entry)) → List Datum
  | [] => []
  | fields :: rest => .record (dataOf fields) :: recordsOf rest
end

def shortKey? (text : List Char) : Option (List String × List Char) := do
  let (names, rest) ← key? (text.length + 1) text
  guard (names.length ≤ nesting)
  return (names, rest)

def listItems? (item? : List Char → Option (Datum × List Char)) :
    (limit : Nat) → List Char → Option (List Datum × List Char)
  | 0, _ => none
  | limit + 1, text => do
      match ← skipLines (text.length + 1) text with
      | ']' :: rest => return ([], rest)
      | text =>
          let (item, rest) ← item? text
          match ← skipLines (rest.length + 1) rest with
          | ',' :: rest =>
              let (items, rest) ← listItems? item? limit rest
              return (item :: items, rest)
          | ']' :: rest => return ([item], rest)
          | _ => none

def inlineFields? (item? : List Char → Option (Datum × List Char)) :
    (limit : Nat) → Table → List Char → Option (Table × List Char)
  | 0, _, _ => none
  | limit + 1, table, text => do
      match ← skipLines (text.length + 1) text with
      | '}' :: rest => return (table, rest)
      | text =>
          let (names, rest) ← shortKey? text
          match rest with
          | '=' :: rest =>
              let (value, rest) ← item? (skipSpace rest)
              let table ← setKey value names table
              match ← skipLines (rest.length + 1) rest with
              | ',' :: rest => inlineFields? item? limit table rest
              | '}' :: rest => return (table, rest)
              | _ => none
          | _ => none

def valueWithin? (depth : Nat) (text : List Char) : Option (Datum × List Char) :=
  match text with
  | '"' :: _ | '\'' :: _ => (text? text).map fun (s, rest) => (.text s, rest)
  | '[' :: rest =>
      match depth with
      | 0 => none
      | depth + 1 =>
          (listItems? (valueWithin? depth) (rest.length + 1) rest).map fun (items, rest) =>
            (.list items, rest)
  | '{' :: rest =>
      match depth with
      | 0 => none
      | depth + 1 =>
          (inlineFields? (valueWithin? depth) (rest.length + 1) [] rest).map fun (table, rest) =>
            (.record (dataOf table), rest)
  | text => word? text

def lineEnd? (text : List Char) : Option (List Char) := do
  let rest ← skipComment (skipSpace text)
  match rest with
  | [] => some []
  | rest => lineBreak? rest

/-- The entries of a document. `header` names the table that is open; `limit` bounds the number of
lines. -/
def entries? : (limit : Nat) → (header : List String) → Table → List Char → Option Table
  | 0, _, _, _ => none
  | limit + 1, header, table, text => do
      match ← skipLines (text.length + 1) text with
      | [] => return table
      | '[' :: '[' :: rest =>
          let (names, rest) ← shortKey? rest
          match rest with
          | ']' :: ']' :: rest =>
              let rest ← lineEnd? rest
              entries? limit names (← appendTable names table) rest
          | _ => none
      | '[' :: rest =>
          let (names, rest) ← shortKey? rest
          match rest with
          | ']' :: rest =>
              let rest ← lineEnd? rest
              entries? limit names (← openTable names table) rest
          | _ => none
      | text =>
          let (names, rest) ← shortKey? text
          match rest with
          | '=' :: rest =>
              let (value, rest) ← valueWithin? nesting (skipSpace rest)
              let table ← within (setKey value names) header table
              let rest ← lineEnd? rest
              entries? limit header table rest
          | _ => none

def fields? (document : String) : Option (List (String × Datum)) :=
  let text := match document.toList with
    | '\ufeff' :: rest => rest
    | text => text
  (entries? (text.length + 1) [] [] text).map dataOf

def read? (document : String) : Option Value :=
  (fields? document).bind fun fields => (Datum.record fields).toValue?

end Signpost.Toml
