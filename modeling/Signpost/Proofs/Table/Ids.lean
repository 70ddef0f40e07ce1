import Signpost.Proofs.Table.Refinement

/-! Ids that rows are given.

A row that is inserted without an id gets the one after the greatest id of its table, so no other row
has it and the row is found by it. Ids have 64 bits: beside a row with the greatest of them the addition
overflows, whether other ids are free or not. A table gets there only by rows that bring a great id with
them, or by as many insertions as there are ids. -/

namespace Signpost.Table

open Value (Legible nesting)

variable {tree after : FileTree} {directory table name : String} {place : List String}
  {rows : List Value} {n number limit : Nat}

/-! ## Rows with an id -/

def Fresh (rows : List Value) (n : Nat) : Prop := ∀ row ∈ rows, ¬HasId row (.nat n)

def greatestId : Nat := Nat.pow 2 64 - 1

def Room (rows : List Value) : Prop := ∀ id, IdIn rows id → id < greatestId

theorem fresh_iff : Fresh rows n ↔ ¬IdIn rows n := by
  simp [Fresh, IdIn, hasId_nat_iff]

theorem Next.fresh (next : Next rows n) : Fresh rows n := by
  rw [fresh_iff]
  cases next with
  | first none => exact none 1
  | after among upper => exact fun there => absurd (upper _ there) (by omega)

/-- The next id fits in 64 bits exactly if every id has one after it. -/
theorem Next.lt_iff (next : Next rows n) : n < Nat.pow 2 64 ↔ Room rows := by
  have width : Nat.pow 2 64 = greatestId + 1 := by decide
  cases next with
  | first none => exact ⟨fun _ id there => absurd there (none id), fun _ => by decide⟩
  | after among upper =>
    refine ⟨fun fits id there => ?_, fun room => ?_⟩
    · have below := upper id there
      omega
    · have below := room _ among
      omega

/-- Ids that read back fit in 64 bits. -/
theorem ids_le_greatestId (legible : LegibleRows rows) (there : IdIn rows n) : n ≤ greatestId := by
  obtain ⟨row, member, before, later, rfl, _⟩ := there
  cases legible _ member with
  | obj _ each =>
    cases each ("id", .nat n) (List.mem_append_right before List.mem_cons_self) with
    | num legible =>
      have natural : (Number.int n).natural? = some n := Number.natural?_int_eq_some_iff.mpr rfl
      have fits := Number.natural?_lt_of_read? (legible [] trivial) natural
      unfold greatestId
      omega

theorem room_iff (legible : LegibleRows rows) : Room rows ↔ Fresh rows greatestId := by
  rw [fresh_iff]
  constructor
  · exact fun room there => Nat.lt_irrefl _ (room _ there)
  · intro absent id there
    refine Nat.lt_of_le_of_ne (ids_le_greatestId legible there) ?_
    rintro rfl
    exact absent there

theorem find?_inserted (fresh : Fresh rows n) {row : Fields} (lacks : (Value.obj row).Lacks "id") :
    (rows ++ [Value.obj (row ++ [("id", .nat n)])]).find? (hasId (.nat n)) =
      some (.obj (row ++ [("id", .nat n)])) :=
  find?_hasId_iff.mpr
    ⟨hasId_nat_iff.mpr ((Value.has_concat_iff lacks).mpr rfl), rows, [], rfl, fresh⟩

/-! ## Inserting and finding -/

theorem path?_of_storeOf (read : storeOf directory tree table = .ok rows) :
    ∃ path, path? directory table = some path ∧ readRows tree path = .ok rows := by
  unfold storeOf at read
  split at read
  next => cases read
  next path found => exact ⟨path, found, read⟩

theorem withId?_eq (rows : List Value) {row : Fields} (lacks : (Value.obj row).Lacks "id") :
    withId? rows row = (nextId? rows).map fun next => row ++ [("id", .nat next)] := by
  have none : Fields.get? row "id" = none := Value.lacks_iff.mp lacks
  rw [withId?, Fields.has, none]
  rfl

/-- A row that has an id, or is given one, is inserted wherever the table can be read and written; it
reads back as long as all rows of the table do. -/
theorem run_insert (houses : tree.Houses directory place) (writable : Writable tree directory place)
    (read : storeOf directory tree table = .ok rows) {row new : Fields}
    (given : withId? rows row = some new) :
    ∃ after, run tree directory table (.insert row) = (.ok (.ok (.obj new)), after) ∧
      (LegibleRows (rows ++ [.obj new]) → storeOf directory after table = .ok (rows ++ [.obj new])) := by
  obtain ⟨path, found, read⟩ := path?_of_storeOf read
  obtain ⟨valid, rfl⟩ := of_path? found
  obtain ⟨after, stored, -⟩ := writable.writes houses valid read (text (rows ++ [.obj new]))
  refine ⟨after, ?_, fun legible => ?_⟩
  · simp only [run, found, read, Action.effect?, given, Option.map_some, stored]
  · rw [(storeOf_written houses valid legible stored).2, Function.update_self]

theorem run_overflow (read : storeOf directory tree table = .ok rows) {row : Fields}
    (none : withId? rows row = none) :
    run tree directory table (.insert row) = (.error .overflow, tree) := by
  obtain ⟨path, found, read⟩ := path?_of_storeOf read
  simp only [run, found, read, Action.effect?, none, Option.map_none]

theorem run_get {id row : Value} (read : storeOf directory tree table = .ok rows)
    (there : rows.find? (hasId id) = some row) :
    run tree directory table (.get id) = (.ok (.ok row), tree) := by
  obtain ⟨path, found, read⟩ := path?_of_storeOf read
  simp only [run, found, read, Action.effect?, there]

/-! ## Runs of requests -/

theorem run_houses (houses : tree.Houses directory place) (table : String) (action : Action) :
    (run tree directory table action).2.Houses directory place := by
  have ends := run_ends tree directory table action
  generalize run tree directory table action = result at ends
  cases ends with
  | wrote found read changes stored =>
    obtain ⟨valid, rfl⟩ := of_path? found
    exact (houses.writeAtomic (isPlain_of_validName valid) stored).1
  | faulted found read changes lost =>
    obtain ⟨valid, rfl⟩ := of_path? found
    exact (houses.writeAtomic (isPlain_of_validName valid) lost).1
  | _ => exact houses

theorem invoke_houses (houses : tree.Houses directory place) (name : String) (record : Value) :
    (invoke directory name record tree).2.Houses directory place := by
  rcases invoke_cases directory name record with ⟨_, _, failed⟩ | ⟨table, action, _, _, runs⟩
  · rw [failed]
    exact houses
  · rw [runs]
    exact run_houses houses table action

/-- Whatever is asked, tables can be written afterwards. -/
theorem invokeAll_writable (houses : tree.Houses directory place)
    (writable : Writable tree directory place) (requests : List (String × Value)) :
    (invokeAll directory requests tree).2.Houses directory place ∧
      Writable (invokeAll directory requests tree).2 directory place := by
  induction requests generalizing tree with
  | nil => exact ⟨houses, writable⟩
  | cons request later ih =>
    obtain ⟨name, record⟩ := request
    exact ih (invoke_houses houses name record) (invoke_writes name record houses writable).1

def insertion (table : String) (row : Fields) : String × Value :=
  ("insert", .obj [("table", .str table), ("row", .obj row)])

theorem names_insertion (table : String) (row : Fields) : Names (insertion table row).2 table :=
  names_iff.mpr rfl

theorem asks_insertion (table : String) (row : Fields) :
    Asks "insert" (insertion table row).2 (.insert row) := asks_iff.mpr rfl

theorem invoke_insertion (directory table : String) (row : Fields) (tree : FileTree) :
    invoke directory "insert" (insertion table row).2 tree =
      run tree directory table (.insert row) :=
  invoke_eq_run (names_insertion table row) (asks_insertion table row) directory tree

/-- Any rows with ids come to stand in a table that was empty before. -/
theorem storeOf_insertions (houses : tree.Houses directory place)
    (writable : Writable tree directory place) (read : storeOf directory tree table = .ok rows)
    (legible : LegibleRows rows) {new : List Fields} (named : ∀ row ∈ new, Fields.has row "id" = true)
    (given : ∀ row ∈ new, Legible (nesting - 1) (.obj row)) :
    storeOf directory (invokeAll directory (new.map (insertion table)) tree).2 table =
      .ok (rows ++ new.map Value.obj) := by
  induction new generalizing tree rows with
  | nil =>
    rw [List.map_nil, List.map_nil, List.append_nil]
    exact read
  | cons row later ih =>
    obtain ⟨has, named⟩ := List.forall_mem_cons.mp named
    obtain ⟨legible', given⟩ := List.forall_mem_cons.mp given
    obtain ⟨after, inserted, readsBack⟩ := run_insert houses writable read (if_pos has)
    have houses' := run_houses houses table (.insert row)
    have writable' := (run_writes houses writable table (.insert row)).1
    rw [inserted] at houses' writable'
    have legible'' : LegibleRows (rows ++ [.obj row]) :=
      List.forall_mem_append.mpr ⟨legible, List.forall_mem_singleton.mpr legible'⟩
    have rest := ih houses' writable' (readsBack legible'') legible'' named given
    rw [List.append_assoc] at rest
    have step : (invoke directory "insert" (insertion table row).2 tree).2 = after := by
      rw [invoke_insertion, inserted]
    rw [← step] at rest
    exact rest

/-! ## Ids below a limit -/

def Store.Within (store : Store) (limit : Nat) : Prop :=
  ∀ table rows, store table = .ok rows → ∀ id, IdIn rows id → id ≤ limit

/-- A row that the action inserts brings no id beyond the limit. -/
def Action.Within (action : Action) (limit : Nat) : Prop :=
  ∀ row, action = .insert row → ∀ id : Nat, (Value.obj row).Has "id" (.nat id) → id ≤ limit

theorem Answers.ids_le {action : Action} {value : Value} {left : List Value}
    (answers : Answers rows action value left) (within : ∀ id, IdIn rows id → id ≤ limit)
    (brings : action.Within limit) : ∀ id, IdIn left id → id ≤ limit + 1 := by
  rintro id ⟨row, member, has⟩
  have old (member : row ∈ rows) : id ≤ limit + 1 := Nat.le_succ_of_le (within id ⟨row, member, has⟩)
  cases answers with
  | listed => exact old member
  | got => exact old member
  | inserted =>
    rcases List.mem_append.mp member with before | last
    · exact old before
    · obtain rfl := List.mem_singleton.mp last
      exact Nat.le_succ_of_le (brings _ rfl id has)
  | numbered lacks next =>
    rcases List.mem_append.mp member with before | last
    · exact old before
    · obtain rfl := List.mem_singleton.mp last
      obtain rfl := Int.natCast_inj.mp
        (Number.int.inj (Value.num.inj ((Value.has_concat_iff lacks).mp has)))
      cases next with
      | first => omega
      | after among =>
        have below := within _ among
        omega
  | deleted without => exact old (without.subset member)

theorem Serves.within {store left : Store} {record : Value} {answer : Except Error Reply}
    (serves : Serves store name record answer left) (within : store.Within limit)
    (brings : ∀ action, Asks name record action → action.Within limit) :
    left.Within (limit + 1) := by
  have same : store.Within (limit + 1) := fun table rows there id member =>
    Nat.le_succ_of_le (within table rows there id member)
  cases serves with
  | refused => exact same
  | @done table _ _ _ names asks does =>
    cases does with
    | served read answers =>
      intro other rows there
      rcases eq_or_ne other table with rfl | different
      · rw [Function.update_self] at there
        obtain rfl := Except.ok.inj there
        exact answers.ids_le (within _ _ read) (brings _ asks)
      · rw [Function.update_of_ne different] at there
        exact same other rows there
    | _ => exact same

/-- The rows that requests bring read back, and bring no id beyond the limit. -/
structure Brings (requests : List (String × Value)) (limit : Nat) : Prop where
  legible : ∀ request ∈ requests, ∀ row,
    Asks request.1 request.2 (.insert row) → Legible (nesting - 1) (.obj row)
  within : ∀ request ∈ requests, ∀ action, Asks request.1 request.2 action → action.Within limit

theorem Brings.later {request : String × Value} {later : List (String × Value)}
    (brings : Brings (request :: later) limit) : Brings later (limit + 1) where
  legible other member := brings.legible other (List.mem_cons_of_mem _ member)
  within other member action asks row same id has :=
    Nat.le_succ_of_le
      (brings.within other (List.mem_cons_of_mem _ member) action asks row same id has)

theorem brings_insertions {new : List Fields}
    (legible : ∀ row ∈ new, Legible (nesting - 1) (.obj row))
    (within : ∀ row ∈ new, ∀ id : Nat, (Value.obj row).Has "id" (.nat id) → id ≤ limit) :
    Brings (new.map (insertion table)) limit where
  legible := by
    intro request member row asks
    obtain ⟨row', listed, rfl⟩ := List.mem_map.mp member
    obtain rfl := Action.insert.inj (asks.unique (asks_insertion table row'))
    exact legible row listed
  within := by
    rintro request member action asks row rfl
    obtain ⟨row', listed, rfl⟩ := List.mem_map.mp member
    obtain rfl := Action.insert.inj (asks.unique (asks_insertion table row'))
    exact within row listed

theorem invokeAll_sound (houses : tree.Houses directory place)
    (sound : (storeOf directory tree).Sound) {requests : List (String × Value)}
    (brings : Brings requests limit) :
    (storeOf directory (invokeAll directory requests tree).2).Sound := by
  induction requests generalizing tree limit with
  | nil => exact sound
  | cons request later ih =>
    obtain ⟨name, record⟩ := request
    obtain ⟨-, houses', sound'⟩ :=
      invoke_serves houses sound (brings.legible (name, record) List.mem_cons_self)
    exact ih houses' sound' brings.later

theorem invokeAll_within (houses : tree.Houses directory place)
    (sound : (storeOf directory tree).Sound) (within : (storeOf directory tree).Within limit)
    {requests : List (String × Value)} (brings : Brings requests limit) :
    (storeOf directory (invokeAll directory requests tree).2).Within (limit + requests.length) := by
  induction requests generalizing tree limit with
  | nil => exact within
  | cons request later ih =>
    obtain ⟨name, record⟩ := request
    obtain ⟨serves, houses', sound'⟩ :=
      invoke_serves houses sound (brings.legible (name, record) List.mem_cons_self)
    have within' := serves.within within (brings.within (name, record) List.mem_cons_self)
    have rest := ih houses' sound' within' brings.later
    rw [Nat.add_right_comm] at rest
    exact rest

/-! ## New ids -/

/-- What the number that a new row is given has to do with the rows of its table, `after` being the tree
with the new row. -/
structure Numbered (directory table : String) (rows : List Value) (row : Fields) (number : Nat)
    (after : FileTree) : Prop where
  follows : Next rows number
  fits : number < Nat.pow 2 64
  fresh : Fresh rows number
  found : LegibleRows rows → Legible (nesting - 1) (.obj row) → ∀ inquiry,
    Names inquiry table → inquiry.Has "id" (.nat number) →
    invoke directory "get" inquiry after =
      (.ok (.ok (.obj (row ++ [("id", .nat number)]))), after)

/-- Whatever has been asked of tables before, a row without an id is inserted into each that can be
read, and gets an id that no row has, as long as none has the greatest one; otherwise the next id
overflows and nothing is inserted. Legible tables stay so, and their ids come to the greatest one only
by a row that brings a great id: where all ids were within a limit and no request brings one beyond it,
every request goes at most one further. -/
theorem assigned_ids_fresh (houses : tree.Houses directory place)
    (writable : Writable tree directory place) (requests : List (String × Value)) :
    (∀ table rows record row,
      storeOf directory (invokeAll directory requests tree).2 table = .ok rows →
      Names record table → record.Has "row" (.obj row) → (Value.obj row).Lacks "id" →
      (Room rows → ∃ number after,
        invoke directory "insert" record (invokeAll directory requests tree).2 =
          (.ok (.ok (.obj (row ++ [("id", .nat number)]))), after) ∧
        Numbered directory table rows row number after) ∧
      (¬Room rows → invoke directory "insert" record (invokeAll directory requests tree).2 =
        (.error .overflow, (invokeAll directory requests tree).2))) ∧
    ∀ limit, (storeOf directory tree).Sound → Brings requests limit →
      ∀ table rows, storeOf directory (invokeAll directory requests tree).2 table = .ok rows →
        LegibleRows rows ∧ (Room rows ↔ Fresh rows greatestId) ∧
          ((storeOf directory tree).Within limit → limit + requests.length < greatestId → Room rows) := by
  constructor
  · intro table rows record row read names given lacks
    obtain ⟨houses', writable'⟩ := invokeAll_writable houses writable requests
    obtain ⟨number, next, same⟩ := exists_next rows
    have longer := withId?_eq rows lacks
    rw [same] at longer
    rw [invoke_eq_run names (.insert rfl given)]
    refine ⟨fun room => ?_, fun full => ?_⟩
    · have fits := next.lt_iff.mpr room
      rw [if_pos fits, Option.map_some] at longer
      obtain ⟨after, inserted, readsBack⟩ := run_insert houses' writable' read longer
      refine ⟨number, after, inserted, next, fits, next.fresh, ?_⟩
      intro legible legible' inquiry names' asked
      -- the row can be found because the rows read back with it
      have legible'' := (Answers.numbered lacks next fits).legible legible
        fun _ same => Action.insert.inj same ▸ legible'
      rw [invoke_eq_run names' (.get rfl (.given asked))]
      exact run_get (readsBack legible'') (find?_inserted next.fresh lacks)
    · rw [if_neg (next.lt_iff.not.mpr full), Option.map_none] at longer
      exact run_overflow read longer
  · intro limit sound brings table rows read
    have legible := invokeAll_sound houses sound brings table rows read
    refine ⟨legible, room_iff legible, fun within fits id there => ?_⟩
    have below := invokeAll_within houses sound within brings
    exact Nat.lt_of_le_of_lt (below table rows read id there) fits

namespace Sample

/-- Rows read back whose fields have different names and legible values. -/
theorem legible_rows {new : List Fields} (distinct : ∀ row ∈ new, (Fields.names row).Nodup)
    (fields : ∀ field ∈ new.flatten, Legible (nesting - 2) field.2) :
    ∀ row ∈ new, Legible (nesting - 1) (.obj row) := fun row member =>
  .obj (distinct row member) fun field there =>
    fields field (List.mem_flatten.mpr ⟨row, member, there⟩)

def mixed : List Fields :=
  [[("id", .str "42")], [("text", .str "a"), ("id", .nat 41)], [("id", .int (-3))]]

theorem legible_mixed : ∀ row ∈ mixed, Legible (nesting - 1) (.obj row) := by
  refine legible_rows (by decide) fun field there => ?_
  simp only [mixed, List.flatten_cons, List.flatten_nil, List.cons_append, List.nil_append,
    List.mem_cons, List.not_mem_nil, or_false] at there
  rcases there with rfl | rfl | rfl | rfl
  · exact .str "42"
  · exact .str "a"
  · exact Value.legible_nat (by decide)
  · exact .num (Number.legible_int (by decide) (by decide))

def crowding : List Fields :=
  [[("id", .nat 0), ("text", .str "first")], [("id", .nat 18446744073709551615)]]

theorem legible_crowding : ∀ row ∈ crowding, Legible (nesting - 1) (.obj row) := by
  refine legible_rows (by decide) fun field there => ?_
  simp only [crowding, List.flatten_cons, List.flatten_nil, List.cons_append, List.nil_append,
    List.mem_cons, List.not_mem_nil, or_false] at there
  rcases there with rfl | rfl | rfl
  · exact Value.legible_nat (by decide)
  · exact .str "first"
  · exact Value.legible_nat (by decide)

theorem legible_text (text : String) : Legible (nesting - 1) (.obj [("text", .str text)]) :=
  .obj (by simp [Fields.names]) fun _ there => List.mem_singleton.mp there ▸ .str text

theorem storeOf_inserted (new : List Fields) (named : ∀ row ∈ new, Fields.has row "id" = true)
    (given : ∀ row ∈ new, Legible (nesting - 1) (.obj row)) :
    storeOf "data" (invokeAll "data" (new.map (insertion "notes")) empty).2 "notes" =
      .ok (new.map Value.obj) :=
  storeOf_insertions houses_empty writable_empty (storeOf_empty nameable_notes) nofun named given

theorem within_empty (limit : Nat) : (storeOf "data" empty).Within limit := by
  intro table rows read id there
  by_cases nameable : Nameable table
  · rw [storeOf_empty nameable] at read
    cases read
    obtain ⟨_, member, _⟩ := there
    cases member
  · rw [storeOf_invalid_iff.mpr nameable] at read
    cases read

theorem next_mixed : Next (mixed.map Value.obj) 42 := next_of_nextId? (by decide)

theorem brings_mixed : Brings (mixed.map (insertion "notes")) 41 := by
  refine brings_insertions legible_mixed fun row member id has => ?_
  have found := Value.has_iff.mp has
  simp only [mixed, List.mem_cons, List.not_mem_nil, or_false] at member
  rcases member with rfl | rfl | rfl
  · cases found
  · cases found
    exact Nat.le_refl 41
  · cases found

end Sample

/-- Beside rows with the ids "42", 41 and -3 a new row gets the id 42, and is found by it. -/
theorem assigned_ids_fresh_mixed :
    Sample.empty.Houses "data" ["data"] ∧ Writable Sample.empty "data" ["data"] ∧
      storeOf "data" (invokeAll "data" (Sample.mixed.map (insertion "notes")) Sample.empty).2 "notes" =
        .ok (Sample.mixed.map Value.obj) ∧
      (storeOf "data" Sample.empty).Sound ∧ (storeOf "data" Sample.empty).Within 41 ∧
      Brings (Sample.mixed.map (insertion "notes")) 41 ∧
      ∃ after,
        invoke "data" "insert" (insertion "notes" [("text", .str "b")]).2
          (invokeAll "data" (Sample.mixed.map (insertion "notes")) Sample.empty).2 =
            (.ok (.ok (.obj [("text", .str "b"), ("id", .nat 42)])), after) ∧
        invoke "data" "get" (.obj [("table", .str "notes"), ("id", .nat 42)]) after =
          (.ok (.ok (.obj [("text", .str "b"), ("id", .nat 42)])), after) := by
  have read := Sample.storeOf_inserted Sample.mixed (by decide) Sample.legible_mixed
  obtain ⟨numbered, reached⟩ := assigned_ids_fresh Sample.houses_empty Sample.writable_empty
    (Sample.mixed.map (insertion "notes"))
  obtain ⟨legible, -, room⟩ := reached 41 Sample.sound_empty Sample.brings_mixed _ _ read
  obtain ⟨inserts, -⟩ := numbered "notes" _ (insertion "notes" [("text", .str "b")]).2
    [("text", .str "b")] read (names_insertion _ _) (Value.has_iff.mpr rfl) (Value.lacks_iff.mpr rfl)
  obtain ⟨number, after, inserted, becomes⟩ := inserts (room (Sample.within_empty 41) (by decide))
  obtain rfl : number = 42 := becomes.follows.unique Sample.next_mixed
  refine ⟨Sample.houses_empty, Sample.writable_empty, read, Sample.sound_empty,
    Sample.within_empty 41, Sample.brings_mixed, after, inserted, ?_⟩
  exact becomes.found legible (Sample.legible_text "b") _ (names_iff.mpr rfl) (Value.has_iff.mpr rfl)

/-- Beside rows with the ids zero and the greatest one a new row gets none, though the id one is free:
the addition overflows. -/
theorem crowded_overflow :
    storeOf "data" (invokeAll "data" (Sample.crowding.map (insertion "notes")) Sample.empty).2 "notes" =
        .ok (Sample.crowding.map Value.obj) ∧
      Fresh (Sample.crowding.map Value.obj) 1 ∧
      invoke "data" "insert" (insertion "notes" [("text", .str "new")]).2
          (invokeAll "data" (Sample.crowding.map (insertion "notes")) Sample.empty).2 =
        (.error .overflow,
          (invokeAll "data" (Sample.crowding.map (insertion "notes")) Sample.empty).2) := by
  have read := Sample.storeOf_inserted Sample.crowding (by decide) Sample.legible_crowding
  refine ⟨read, ?_, ?_⟩
  · rw [fresh_iff, ← mem_ids_iff]
    decide
  · rw [invoke_insertion]
    exact run_overflow read (by decide)

end Signpost.Table
