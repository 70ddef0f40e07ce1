import Mathlib.Data.List.Forall2
import Signpost.Terminal

/-! Tables have a column for every field and a cell for every row and column.

The columns are gathered field by field, where each row may have fields of its own. At every moment
they are the names that have come so far, each once and in the order in which they came first. The
cells are written when all columns are known, so that every row has the same number of them. -/

namespace Signpost.Terminal

variable {keys columns : List String}

/-! ## Columns -/

/-- The columns are the keys, each of them once and in the order in which they first occur. -/
structure FirstSeen (keys columns : List String) : Prop where
  complete : ∀ name, name ∈ columns ↔ name ∈ keys
  ordered : columns.Pairwise fun one other => keys.idxOf one < keys.idxOf other

theorem FirstSeen.nodup (seen : FirstSeen keys columns) : columns.Nodup :=
  seen.ordered.imp fun earlier same => Nat.ne_of_lt earlier (congrArg keys.idxOf same)

/-- Keys that come later do not change where the others first occur. -/
theorem FirstSeen.ordered_append (seen : FirstSeen keys columns) (later : List String) :
    columns.Pairwise fun one other => (keys ++ later).idxOf one < (keys ++ later).idxOf other := by
  refine seen.ordered.imp_of_mem fun one other earlier => ?_
  rwa [List.idxOf_append_of_mem ((seen.complete _).mp one),
    List.idxOf_append_of_mem ((seen.complete _).mp other)]

theorem FirstSeen.concat_known {name : String} (seen : FirstSeen keys columns)
    (known : name ∈ columns) : FirstSeen (keys ++ [name]) columns where
  complete other := by
    rw [List.mem_append, List.mem_singleton, ← seen.complete]
    constructor
    · exact .inl
    · rintro (there | rfl)
      · exact there
      · exact known
  ordered := seen.ordered_append [name]

theorem FirstSeen.concat_new {name : String} (seen : FirstSeen keys columns)
    (new : name ∉ columns) : FirstSeen (keys ++ [name]) (columns ++ [name]) where
  complete other := by rw [List.mem_append, List.mem_append, seen.complete]
  ordered := by
    have absent : name ∉ keys := mt (seen.complete name).mpr new
    have behind : ∀ other ∈ columns,
        (keys ++ [name]).idxOf other < (keys ++ [name]).idxOf name := by
      intro other member
      have before : other ∈ keys := (seen.complete other).mp member
      rw [List.idxOf_append_of_mem before, List.idxOf_append_of_notMem absent]
      exact Nat.lt_add_right _ (List.idxOf_lt_length_iff.mpr before)
    rw [List.pairwise_append]
    exact ⟨seen.ordered_append [name], List.pairwise_singleton _ name, by simpa using behind⟩

theorem FirstSeen.addColumns (seen : FirstSeen keys columns) (names : List String) :
    FirstSeen (keys ++ names) (addColumns columns names) := by
  induction names generalizing keys columns with
  | nil => rwa [List.append_nil]
  | cons name names ih =>
    rw [Terminal.addColumns, List.append_cons]
    by_cases known : name ∈ columns
    · rw [if_pos (List.contains_iff_mem.mpr known)]
      exact ih (seen.concat_known known)
    · rw [if_neg (mt List.contains_iff_mem.mp known)]
      exact ih (seen.concat_new known)

theorem FirstSeen.foldl_addRow (seen : FirstSeen keys columns) (rows : List Fields) :
    FirstSeen (keys ++ rows.flatMap Fields.names) ((rows.map .obj).foldl addRow columns) := by
  induction rows generalizing keys columns with
  | nil => rwa [List.flatMap_nil, List.append_nil]
  | cons row rows ih =>
    rw [List.flatMap_cons, ← List.append_assoc, List.map_cons, List.foldl_cons]
    exact ih (seen.addColumns (Fields.names row))

theorem firstSeen_columnsOf (rows : List Fields) :
    FirstSeen (rows.flatMap Fields.names) (columnsOf (rows.map .obj)) :=
  FirstSeen.foldl_addRow ⟨fun _ => Iff.rfl, .nil⟩ rows

/-! ## Cells -/

inductive Shows (row : Fields) (column : String) : String → Prop
  | missing (absent : row.get? column = none) : Shows row column ""
  | null (given : row.get? column = some .null) : Shows row column ""
  | text {text : String} (given : row.get? column = some (.str text)) : Shows row column text
  /-- A value that is neither null nor text stands there in its compact form. -/
  | compact {value : Value} (given : row.get? column = some value) (shown : value.isNull = false)
      (other : value.text? = none) : Shows row column value.text

theorem shows_cell (row : Fields) (column : String) :
    Shows row column (cell (.obj row) column) := by
  unfold cell
  rw [show (Value.obj row).field? column = row.get? column from rfl]
  cases found : row.get? column with
  | none => exact .missing found
  | some value =>
    cases value with
    | null => exact .null found
    | str text => exact .text found
    | bool value => exact .compact found rfl rfl
    | num value => exact .compact found rfl rfl
    | arr items => exact .compact found rfl rfl
    | obj fields => exact .compact found rfl rfl

theorem forall₂_shows (row : Fields) (columns : List String) :
    List.Forall₂ (Shows row) columns (columns.map (cell (.obj row))) := by
  rw [List.forall₂_map_right_iff, List.forall₂_same]
  exact fun column _ => shows_cell row column

/-- The columns of a table are all names of fields, each once and in the order in which they first
occur. The rows have one line each, in their order, with one cell for every column in the order of the
columns, where the row's value for that column stands. -/
theorem table_complete (rows : List Fields) :
    FirstSeen (rows.flatMap Fields.names) (cells (rows.map .obj)).1 ∧
      (cells (rows.map .obj)).1.Nodup ∧
      List.Forall₂ (fun row line => List.Forall₂ (Shows row) (cells (rows.map .obj)).1 line)
        rows (cells (rows.map .obj)).2 := by
  have seen := firstSeen_columnsOf rows
  refine ⟨seen, seen.nodup, ?_⟩
  have lines : (cells (rows.map .obj)).2 =
      rows.map fun row => (columnsOf (rows.map .obj)).map (cell (.obj row)) := List.map_map
  rw [lines, List.forall₂_map_right_iff, List.forall₂_same]
  exact fun row _ => forall₂_shows row _

/-- Rows with different fields. -/
example : cells [.obj [("id", .nat 1), ("name", .str "ada")],
      .obj [("id", .nat 2), ("name", .null), ("mails", .arr [.str "b@x"])]] =
    (["id", "name", "mails"], [["1", "ada", ""], ["2", "", "[\"b@x\"]"]]) := by
  cbv

end Signpost.Terminal
