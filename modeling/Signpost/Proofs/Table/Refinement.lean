import Signpost.Proofs.Table.Store
import Signpost.Proofs.Value.Legible

/-! Tables in files are tables in memory.

The rows of a table are what its file is read as. A request leaves the files of the other tables
alone, a fault leaves all of them alone, and the rows that are written read back as long as they are
legible. So the answers to any requests are those of tables in memory. -/

namespace Signpost.Table

open Value (Legible nesting)

variable {tree after : FileTree} {directory table name : String} {place : List String}
  {rows : List Value}

def storeOf (directory : String) (tree : FileTree) : Store := fun table =>
  match path? directory table with
  | none => .error (.invalidName table)
  | some path => readRows tree path

/-- Rows that read back from the file of their table. -/
def LegibleRows (rows : List Value) : Prop := ∀ row ∈ rows, Legible (nesting - 1) row

def Store.Sound (store : Store) : Prop := ∀ table rows, store table = .ok rows → LegibleRows rows

/-! ## Rows in files -/

theorem storeOf_of_path? {path : String} (found : path? directory table = some path)
    (tree : FileTree) : storeOf directory tree table = readRows tree path := by
  simp only [storeOf, found]

theorem readRows_of_stored {path : String} (legible : LegibleRows rows)
    (stored : tree.lookup? path = some (.file (Text.encode (text rows)))) :
    readRows tree path = .ok rows := by
  have read : Value.read? (text rows) = some (.arr rows) :=
    Value.read?_indented (show Legible (nesting - 1 + 1) (.arr rows) from .arr legible)
  simp only [readRows, FileTree.has, FileTree.readText, stored, Option.isSome_some, Bool.not_true,
    Bool.false_eq_true, ↓reduceIte, Text.decode?_encode, read]

theorem free_of_readRows {path : String} (read : readRows tree path = .ok rows) :
    tree.lookup? path ≠ some .directory := by
  intro there
  simp only [readRows, FileTree.has, FileTree.readText, there, Option.isSome_some, Bool.not_true,
    Bool.false_eq_true, ↓reduceIte] at read
  cases read

theorem readRows_ne_invalidName (tree : FileTree) (path : String) :
    readRows tree path ≠ .error (.invalidName table) := by
  unfold readRows
  split
  · nofun
  · split
    · nofun
    · split <;> nofun

theorem storeOf_invalid_iff :
    storeOf directory tree table = .error (.invalidName table) ↔ ¬Nameable table := by
  rw [← nameable_iff]
  unfold storeOf path?
  split
  next none =>
    refine ⟨fun _ valid => ?_, fun _ => rfl⟩
    rw [if_pos valid] at none
    cases none
  next path found =>
    refine ⟨fun lost => absurd lost (readRows_ne_invalidName tree path), fun invalid => ?_⟩
    rw [if_neg invalid] at found
    cases found

theorem storeOf_missing (nameable : Nameable table)
    (missing : tree.lookup? (Path.join directory (table ++ ".json")) = none) :
    storeOf directory tree table = .ok [] := by
  rw [storeOf_of_path? (if_pos (nameable_iff.mpr nameable))]
  simp only [readRows, FileTree.has, missing]
  rfl

section Stores

variable (houses : tree.Houses directory place) (houses' : after.Houses directory place)

include houses houses'

theorem readRows_of_node? (valid : validName table = true)
    (same : after.node? (place ++ [table ++ ".json"]) = tree.node? (place ++ [table ++ ".json"])) :
    readRows after (Path.join directory (table ++ ".json")) =
      readRows tree (Path.join directory (table ++ ".json")) := by
  have plain := isPlain_of_validName valid
  refine readRows_congr ?_
  rw [houses'.lookup? plain, houses.lookup? plain, same]

/-- Where every table's file is left alone, so are the tables. -/
theorem storeOf_congr (same : ∀ table, validName table = true →
    after.node? (place ++ [table ++ ".json"]) = tree.node? (place ++ [table ++ ".json"])) :
    storeOf directory after = storeOf directory tree := by
  funext table
  cases found : path? directory table with
  | none => simp only [storeOf, found]
  | some path =>
    obtain ⟨valid, rfl⟩ := of_path? found
    rw [storeOf_of_path? found, storeOf_of_path? found]
    exact readRows_of_node? houses houses' valid (same table valid)

theorem storeOf_update (valid : validName table = true) (legible : LegibleRows rows)
    (stored : after.node? (place ++ [table ++ ".json"]) = some (.file (Text.encode (text rows))))
    (others : ∀ other, other ≠ table →
      after.node? (place ++ [other ++ ".json"]) = tree.node? (place ++ [other ++ ".json"])) :
    storeOf directory after = Function.update (storeOf directory tree) table (.ok rows) := by
  funext other
  by_cases same : other = table
  · subst same
    have found : path? directory other = some (Path.join directory (other ++ ".json")) := if_pos valid
    rw [Function.update_self, storeOf_of_path? found]
    refine readRows_of_stored legible ?_
    rw [houses'.lookup? (isPlain_of_validName valid), stored]
  · rw [Function.update_of_ne same]
    cases found : path? directory other with
    | none => simp only [storeOf, found]
    | some path =>
      obtain ⟨valid', rfl⟩ := of_path? found
      rw [storeOf_of_path? found, storeOf_of_path? found]
      exact readRows_of_node? houses houses' valid' (others other same)

end Stores

/-! ## Legible rows -/

theorem not_mem_names_of_lacks {fields : Fields} (lacks : (Value.obj fields).Lacks name) :
    name ∉ Fields.names fields := by
  have others : ∀ other value, (other, value) ∈ fields → name ≠ other := by
    simpa [Value.field?, Fields.get?] using Value.lacks_iff.mp lacks
  intro there
  obtain ⟨field, member, same⟩ := List.mem_map.mp there
  exact others field.1 field.2 member same.symm

theorem legible_numbered {row : Fields} {number : Nat} (lacks : (Value.obj row).Lacks "id")
    (fits : number < Nat.pow 2 64) (legible : Legible (nesting - 1) (.obj row)) :
    Legible (nesting - 1) (.obj (row ++ [("id", .nat number)])) := by
  cases legible with
  | obj once each =>
    refine .obj ?_ fun field member => ?_
    · rw [Fields.names, List.map_append]
      refine List.nodup_append.mpr ⟨once, by simp, fun name member last final => ?_⟩
      obtain rfl := List.mem_singleton.mp final
      rintro rfl
      exact not_mem_names_of_lacks lacks member
    · rcases List.mem_append.mp member with before | last
      · exact each field before
      · obtain rfl := List.mem_singleton.mp last
        exact Value.legible_nat fits

theorem Without.subset {id : Value} {n : Nat} {left : List Value}
    (without : Without id rows n left) : left ⊆ rows := by
  induction without with
  | nil => exact List.Subset.refl []
  | removed _ _ ih => exact List.subset_cons_of_subset _ ih
  | kept _ _ ih => exact List.cons_subset_cons _ ih

theorem Answers.legible {action : Action} {value : Value} {left : List Value}
    (answers : Answers rows action value left) (legible : LegibleRows rows)
    (given : ∀ row, action = .insert row → Legible (nesting - 1) (.obj row)) : LegibleRows left := by
  cases answers with
  | listed => exact legible
  | got => exact legible
  | inserted => exact List.forall_mem_append.mpr ⟨legible, List.forall_mem_singleton.mpr (given _ rfl)⟩
  | numbered lacks _ fits =>
    exact List.forall_mem_append.mpr
      ⟨legible, List.forall_mem_singleton.mpr (legible_numbered lacks fits (given _ rfl))⟩
  | deleted without => exact fun row member => legible row (without.subset member)

/-! ## Requests -/

section Write

variable (houses : tree.Houses directory place) (valid : validName table = true)

include houses valid

theorem storeOf_written (legible : LegibleRows rows)
    (stored : tree.writeAtomic (Path.join directory (table ++ ".json")) (text rows) =
      (none, after)) :
    after.Houses directory place ∧
      storeOf directory after = Function.update (storeOf directory tree) table (.ok rows) := by
  obtain ⟨houses', replaces⟩ := houses.writeAtomic (isPlain_of_validName valid) stored
  refine ⟨houses', storeOf_update houses houses' valid legible (replaces.written rfl) ?_⟩
  exact fun other different => replaces.others _ (file_ne different) (file_ne_temporary other table)

theorem storeOf_faulted {fault : FileFault}
    (lost : tree.writeAtomic (Path.join directory (table ++ ".json")) (text rows) =
      (some fault, after)) :
    after.Houses directory place ∧ storeOf directory after = storeOf directory tree := by
  obtain ⟨houses', replaces⟩ := houses.writeAtomic (isPlain_of_validName valid) lost
  refine ⟨houses', storeOf_congr houses houses' fun other _ => ?_⟩
  by_cases same : other = table
  · rw [same]
    exact replaces.kept (Option.some_ne_none _)
  · exact replaces.others _ (file_ne same) (file_ne_temporary other table)

end Write

theorem Store.Sound.update {store : Store} (sound : store.Sound) (table : String)
    (legible : LegibleRows rows) : Store.Sound (Function.update store table (.ok rows)) := by
  intro other rows' there
  by_cases same : other = table
  · rw [same, Function.update_self] at there
    exact Except.ok.inj there ▸ legible
  · rw [Function.update_of_ne same] at there
    exact sound other rows' there

theorem run_does (houses : tree.Houses directory place) (sound : (storeOf directory tree).Sound)
    (table : String) {action : Action}
    (given : ∀ row, action = .insert row → Legible (nesting - 1) (.obj row)) :
    Does (storeOf directory tree) table action (run tree directory table action).1
        (storeOf directory (run tree directory table action).2) ∧
      (run tree directory table action).2.Houses directory place ∧
        (storeOf directory (run tree directory table action).2).Sound := by
  have ends := run_ends tree directory table action
  generalize run tree directory table action = result at ends
  cases ends with
  | invalid none =>
    have lost : storeOf directory tree table = .error (.invalidName table) := by
      simp only [storeOf, none]
    exact ⟨.unreadable lost, houses, sound⟩
  | unreadable found lost =>
    rw [← storeOf_of_path? found] at lost
    exact ⟨.unreadable lost, houses, sound⟩
  | overflowed found read none =>
    rw [← storeOf_of_path? found] at read
    exact ⟨does_of_no_effect read none, houses, sound⟩
  | looked found read same =>
    rw [← storeOf_of_path? found] at read
    exact ⟨does_of_reply read same, houses, sound⟩
  | wrote found read changes stored =>
    obtain ⟨valid, rfl⟩ := of_path? found
    rw [← storeOf_of_path? found] at read
    obtain ⟨value, rfl, answers, -⟩ := answers_of_change changes
    have legible := answers.legible (sound table _ read) given
    obtain ⟨houses', updated⟩ := storeOf_written houses valid legible stored
    dsimp only
    rw [updated]
    exact ⟨.served read answers, houses', sound.update table legible⟩
  | faulted found read changes lost =>
    obtain ⟨valid, rfl⟩ := of_path? found
    rw [← storeOf_of_path? found] at read
    obtain ⟨value, rfl, answers, different⟩ := answers_of_change changes
    obtain ⟨houses', unchanged⟩ := storeOf_faulted houses valid lost
    dsimp only
    rw [unchanged]
    exact ⟨.faulted read answers different (FileTree.writeAtomic_fault lost).2, houses', sound⟩

/-- Nothing stands in the way of writing tables: the directory can be made, and no directory has the
name of a temporary file. -/
structure Writable (tree : FileTree) (directory : String) (place : List String) : Prop where
  creatable : ∃ made, tree.createDirectories directory = .ok made
  clear : ∀ table, validName table = true →
    tree.isDirectoryAt (place ++ [table ++ ".json" ++ ".tmp"]) = false

namespace Writable

variable (houses : tree.Houses directory place) (writable : Writable tree directory place)
  (valid : validName table = true)

include houses writable valid

theorem writes (read : readRows tree (Path.join directory (table ++ ".json")) = .ok rows)
    (content : String) :
    ∃ after, tree.writeAtomic (Path.join directory (table ++ ".json")) content = (none, after) ∧
      after.isDirectoryAt place = true := by
  have plain := isPlain_of_validName valid
  have free : tree.isDirectoryAt (place ++ [table ++ ".json"]) = false := by
    refine Bool.eq_false_iff.mpr fun there => free_of_readRows read ?_
    rw [houses.lookup? plain]
    simpa [FileTree.isDirectoryAt] using there
  exact houses.writeAtomic_ok plain writable.creatable (writable.clear table valid) free content

theorem written {content : String} (there : after.isDirectoryAt place = true)
    (stored : tree.writeAtomic (Path.join directory (table ++ ".json")) content = (none, after)) :
    Writable after directory place := by
  obtain ⟨houses', replaces⟩ := houses.writeAtomic (isPlain_of_validName valid) stored
  refine ⟨⟨after, houses'.createDirectories_there there⟩, fun other valid' => ?_⟩
  by_cases same : other = table
  · rw [same]
    exact replaces.beside (writable.clear table valid)
  · have unlike : other ++ ".json" ++ ".tmp" ≠ table ++ ".json" ++ ".tmp" :=
      (String.append_left_inj ".tmp").not.mpr (file_ne same)
    rw [FileTree.isDirectoryAt, replaces.others _ (file_ne_temporary table other).symm unlike]
    exact writable.clear other valid'

end Writable

theorem run_writes (houses : tree.Houses directory place) (writable : Writable tree directory place)
    (table : String) (action : Action) :
    Writable (run tree directory table action).2 directory place ∧
      Undisturbed (run tree directory table action).1 := by
  have ends := run_ends tree directory table action
  generalize run tree directory table action = result at ends
  cases ends with
  | invalid => exact ⟨writable, fun _ same => by cases same⟩
  | unreadable found lost =>
    refine ⟨writable, fun fault same => ?_⟩
    obtain rfl := Except.error.inj same
    exact ⟨_, fault_of_readRows lost⟩
  | overflowed => exact ⟨writable, fun _ same => by cases same⟩
  | looked => exact ⟨writable, fun _ same => by cases same⟩
  | wrote found read changes stored =>
    obtain ⟨valid, rfl⟩ := of_path? found
    obtain ⟨after, done, there⟩ := writable.writes houses valid read _
    obtain rfl := (Prod.mk.inj (done.symm.trans stored)).2
    exact ⟨writable.written houses valid there stored, fun _ same => by cases same⟩
  | faulted found read changes lost =>
    obtain ⟨valid, rfl⟩ := of_path? found
    obtain ⟨after, done, -⟩ := writable.writes houses valid read _
    cases done.symm.trans lost

/-! ## Runs of requests -/

def invokeAll (directory : String) :
    List (String × Value) → FileTree → List (Except Error Reply) × FileTree
  | [], tree => ([], tree)
  | (name, record) :: later, tree =>
      let (answer, tree) := invoke directory name record tree
      let (answers, tree) := invokeAll directory later tree
      (answer :: answers, tree)

theorem invoke_serves {record : Value} (houses : tree.Houses directory place)
    (sound : (storeOf directory tree).Sound)
    (given : ∀ row, Asks name record (.insert row) → Legible (nesting - 1) (.obj row)) :
    Serves (storeOf directory tree) name record (invoke directory name record tree).1
        (storeOf directory (invoke directory name record tree).2) ∧
      (invoke directory name record tree).2.Houses directory place ∧
        (storeOf directory (invoke directory name record tree).2).Sound := by
  rcases invoke_cases directory name record with
    ⟨message, refuses, failed⟩ | ⟨table, action, names, asks, runs⟩
  · rw [failed]
    exact ⟨.refused refuses, houses, sound⟩
  · obtain ⟨does, kept⟩ := run_does houses sound table fun row same => given row (same ▸ asks)
    rw [runs]
    exact ⟨.done names asks does, kept⟩

theorem invoke_writes (name : String) (record : Value) (houses : tree.Houses directory place)
    (writable : Writable tree directory place) :
    Writable (invoke directory name record tree).2 directory place ∧
      Undisturbed (invoke directory name record tree).1 := by
  rcases invoke_cases directory name record with ⟨message, -, failed⟩ | ⟨table, action, -, -, runs⟩
  · rw [failed]
    exact ⟨writable, fun _ same => by cases same⟩
  · rw [runs]
    exact run_writes houses writable table action

/-- A directory of tables answers any requests as tables in memory do, of which those without a file
are empty. As long as nothing stands in the way of writing, no request ends in a fault of writing. -/
theorem invokeAll_serves (houses : tree.Houses directory place)
    (sound : (storeOf directory tree).Sound) (requests : List (String × Value))
    (given : ∀ request ∈ requests, ∀ row,
      Asks request.1 request.2 (.insert row) → Legible (nesting - 1) (.obj row)) :
    ServesAll (storeOf directory tree) requests (invokeAll directory requests tree).1
        (storeOf directory (invokeAll directory requests tree).2) ∧
      (Writable tree directory place →
        ∀ answer ∈ (invokeAll directory requests tree).1, Undisturbed answer) ∧
      ∀ table, (storeOf directory tree table = .error (.invalidName table) ↔ ¬Nameable table) ∧
        (Nameable table → tree.lookup? (Path.join directory (table ++ ".json")) = none →
          storeOf directory tree table = .ok []) := by
  refine and_assoc.mp ⟨?_, fun table => ⟨storeOf_invalid_iff, storeOf_missing⟩⟩
  induction requests generalizing tree with
  | nil => exact ⟨.nil, fun _ _ member => by cases member⟩
  | cons request later ih =>
    obtain ⟨name, record⟩ := request
    obtain ⟨serves, houses', sound'⟩ := invoke_serves houses sound (given (name, record) (by simp))
    obtain ⟨others, written⟩ := ih houses' sound' fun other member =>
      given other (List.mem_cons_of_mem _ member)
    refine ⟨.cons serves others, fun writable => ?_⟩
    obtain ⟨writable', here⟩ := invoke_writes name record houses writable
    exact List.forall_mem_cons.mpr ⟨here, written writable'⟩

namespace Sample

def empty : FileTree := ⟨"/w", [], []⟩

/-- Notes are added, asked for and removed; the last four requests fail. -/
def requests : List (String × Value) :=
  [("insert", .obj [("table", .str "notes"), ("row", .obj [("text", .str "a")])]),
    ("insert", .obj [("model", .str "notes"), ("row", .obj [("id", .nat 1), ("text", .str "b")])]),
    ("get", .obj [("table", .str "notes"), ("id", .nat 1)]),
    ("list", .obj [("table", .str "notes")]),
    ("delete", .obj [("table", .str "notes"), ("id", .nat 1)]),
    ("get", .obj [("table", .str "notes"), ("id", .nat 1)]),
    ("drop", .obj [("table", .str "notes")]),
    ("list", .obj [("table", .null), ("model", .str "notes")]),
    ("insert", .obj [("table", .str "notes")])]

def answers : List (Except Error Reply) :=
  [.ok (.ok (.obj [("text", .str "a"), ("id", .nat 1)])),
    .ok (.ok (.obj [("id", .nat 1), ("text", .str "b")])),
    .ok (.ok (.obj [("text", .str "a"), ("id", .nat 1)])),
    .ok (.ok (.arr [.obj [("text", .str "a"), ("id", .nat 1)], .obj [("id", .nat 1), ("text", .str "b")]])),
    .ok (.ok (.obj [("deleted", .nat 2)])),
    .ok (.failed "no row 1 in 'notes'"),
    .ok (.failed "unknown data action 'drop'"),
    .ok (.failed "data action needs a 'table'"),
    .ok (.failed "insert needs a 'row' object")]

theorem rooted_empty : empty.Rooted where
  absolute := Path.isAbsolute_iff.mpr ⟨['w'], rfl⟩
  trimmed := by decide
  named := by decide
  held _ _ there := absurd (by simp [FileTree.node?, empty]) there

theorem below_empty : empty.partsBelow? "data" = some ["data"] :=
  FileTree.partsBelow?_relative rooted_empty.absolute (Path.isAbsolute_of_not_mem (by decide))

theorem houses_empty : empty.Houses "data" ["data"] where
  rooted := rooted_empty
  leads := ⟨["data"], below_empty, .inl ⟨by decide, by decide⟩⟩

theorem storeOf_empty (nameable : Nameable table) : storeOf "data" empty table = .ok [] :=
  storeOf_missing nameable (houses_empty.lookup? (isPlain_of_validName (nameable_iff.mpr nameable)))

theorem sound_empty : (storeOf "data" empty).Sound := by
  intro table rows read
  by_cases nameable : Nameable table
  · rw [storeOf_empty nameable] at read
    cases read
    exact nofun
  · rw [storeOf_invalid_iff.mpr nameable] at read
    cases read

theorem nameable_notes : Nameable "notes" := nameable_iff.mp (by decide)

theorem writable_empty : Writable empty "data" ["data"] where
  creatable := ⟨_, by rw [FileTree.createDirectories, below_empty]; rfl⟩
  clear table _ := by simp [FileTree.isDirectoryAt, FileTree.node?, empty]

theorem legible_requests : ∀ request ∈ requests, ∀ row,
    Asks request.1 request.2 (.insert row) → Legible (nesting - 1) (.obj row) := by
  intro request member row asks
  have known := asks_iff.mp asks
  simp only [requests, List.mem_cons, List.not_mem_nil, or_false] at member
  rcases member with rfl | rfl | rfl | rfl | rfl | rfl | rfl | rfl | rfl
  · cases known
    exact .obj (by decide) fun field member => List.mem_singleton.mp member ▸ .str "a"
  · cases known
    refine .obj (by decide) fun field member => ?_
    rcases List.mem_pair.mp member with rfl | rfl
    · exact Value.legible_nat (by decide)
    · exact .str "b"
  all_goals cases known

theorem serves_notes (store : Store) {record value : Value} {action : Action} {left : List Value}
    (names : Names record "notes") (asks : Asks name record action)
    (answers : Answers rows action value left) :
    Serves (Function.update store "notes" (.ok rows)) name record (.ok (.ok value))
      (Function.update store "notes" (.ok left)) := by
  have served := Serves.done names asks (.served (Function.update_self "notes" (.ok rows) store) answers)
  rwa [Function.update_idem] at served

theorem serves_requests {store : Store} (none : store "notes" = .ok []) :
    ServesAll store requests answers store := by
  have start : Function.update store "notes" (.ok []) = store := by rw [← none, Function.update_eq_self]
  have one {record : Value} (found : record.field? "id" = some (.nat 1)) : HasId record (.nat 1) :=
    ⟨.nat 1, Value.has_iff.mpr found, .num _⟩
  have here {record : Value} (found : tableOf? record = some "notes") : Names record "notes" :=
    names_iff.mpr found
  rw [← start]
  refine .cons (serves_notes store (here rfl) (asks_iff.mpr rfl)
    (.numbered (Value.lacks_iff.mpr rfl) (.first nofun) (by decide))) ?_
  refine .cons (serves_notes store (here rfl) (asks_iff.mpr rfl)
    (.inserted (Value.has_iff.mpr rfl))) ?_
  refine .cons (serves_notes store (here rfl) (asks_iff.mpr rfl)
    (.got (List.nil_append _).symm (one rfl) nofun)) ?_
  refine .cons (serves_notes store (here rfl) (asks_iff.mpr rfl) .listed) ?_
  refine .cons (serves_notes store (here rfl) (asks_iff.mpr rfl)
    (.deleted (.removed (one rfl) (.removed (one rfl) .nil)))) ?_
  refine .cons (.done (here rfl) (asks_iff.mpr rfl)
    (.missed (Function.update_self "notes" (.ok []) store) nofun)) ?_
  refine .cons (.refused (.unknown (here rfl) (by decide))) ?_
  refine .cons (.refused (.untabled fun table names => ?_)) ?_
  · cases names_iff.mp names
  refine .cons (.refused (.rowless (here rfl) rfl fun row has => ?_)) .nil
  cases Value.has_iff.mp has

end Sample

theorem sample_serves :
    ServesAll (storeOf "data" Sample.empty) Sample.requests Sample.answers
        (storeOf "data" (invokeAll "data" Sample.requests Sample.empty).2) ∧
      (invokeAll "data" Sample.requests Sample.empty).1 = Sample.answers := by
  obtain ⟨serves, written, -⟩ := invokeAll_serves Sample.houses_empty Sample.sound_empty Sample.requests
    Sample.legible_requests
  have expected := Sample.serves_requests (Sample.storeOf_empty Sample.nameable_notes)
  have calm : ∀ answer ∈ Sample.answers, Undisturbed answer := by
    intro answer member fault same
    subst same
    simp [Sample.answers] at member
  obtain ⟨same, -⟩ := serves.unique expected (written Sample.writable_empty) calm
  exact ⟨same ▸ serves, same⟩

end Signpost.Table
