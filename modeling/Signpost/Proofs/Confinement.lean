import Signpost.Document.Directory
import Signpost.Proofs.Table.Store
import Signpost.Resource

/-! Documents, resources and tables stay below their directories.

What is read is shown to depend on nothing else: two trees that hold the same below a directory give
the same answer. What is written is shown by the places where the tree has changed. -/

namespace Signpost

open Signpost.Path (Below IsName IsPlain)

namespace FileTree

def SameBelow (directory : String) (tree tree' : FileTree) : Prop :=
  ∀ path, Below directory path → tree.lookup? path = tree'.lookup? path

variable {tree tree' after : FileTree} {directory path text : String} {fault : Option FileFault}

theorem SameBelow.isFile (same : SameBelow directory tree tree') (below : Below directory path) :
    tree.isFile path = tree'.isFile path := by
  rw [FileTree.isFile, same path below, FileTree.isFile]

theorem SameBelow.readText (same : SameBelow directory tree tree') (below : Below directory path) :
    tree.readText path = tree'.readText path := by
  rw [FileTree.readText, same path below, FileTree.readText]

/-- A file that is replaced changes at its own place and beside it; elsewhere directories may be new. -/
theorem writeAtomic_node? (attempted : tree.writeAtomic path text = (fault, after))
    (place : List String) : after.node? place = tree.node? place ∨
      (tree.node? place = none ∧ after.node? place = some .directory) ∨
        ∃ file, (file = path ∨ file = Path.temporary path) ∧ after.locate? file = some place := by
  unfold writeAtomic at attempted
  dsimp only at attempted
  split at attempted
  next =>
    cases attempted
    exact .inl rfl
  next made created =>
    have grown := (Grows.createDirectories created).node place
    split at attempted
    next =>
      cases attempted
      exact grown.imp_right .inl
    next prepared wrote =>
      obtain ⟨beside, located, free, rfl⟩ := writeFile_eq wrote
      have spares : made.Spares (made.set beside (.file (Text.encode text))) := .set free
      have standing := spares.locate? located
      have elsewhere (different : place ≠ beside) :
          (made.set beside (.file (Text.encode text))).node? place = made.node? place :=
        node?_set_of_ne different
      split at attempted
      next =>
        cases attempted
        by_cases here : place = beside
        · subst here
          exact .inr (.inr ⟨_, .inr rfl, standing⟩)
        · rw [elsewhere here]
          exact grown.imp_right .inl
      next replaced =>
        cases attempted
        obtain ⟨origin, goal, content, from?, to?, stored, free', -, rfl⟩ := replaceFile_eq replaced
        obtain rfl := Option.some.inj (standing.symm.trans from?)
        have gone := Spares.remove (isDirectoryAt_of_file stored)
        have cleared : (FileTree.remove _ beside).isDirectoryAt goal = false := isDirectoryAt_remove free'
        have moved : Spares _ (FileTree.set _ goal (.file content)) := .set cleared
        by_cases there : place = goal
        · subst there
          exact .inr (.inr ⟨_, .inl rfl, moved.locate? (gone.locate? to?)⟩)
        · by_cases here : place = beside
          · subst here
            exact .inr (.inr ⟨_, .inr rfl, moved.locate? (gone.locate? standing)⟩)
          · rw [node?_set_of_ne there, node?_remove_of_ne here, elsewhere here]
            exact grown.imp_right .inl

end FileTree

/-! ## Documents -/

namespace Document

variable {directory path : String} {segments : List String}

theorem isPlain_of_segments? (named : segments? path = some segments) :
    segments ≠ [] ∧ ∀ segment ∈ segments, IsPlain segment := by
  unfold segments? at named
  dsimp only at named
  split at named
  next => cases named
  next fit =>
    obtain rfl := Option.some.inj named
    obtain ⟨some, plain⟩ := not_or.mp (by simpa only [Bool.or_eq_true] using fit)
    refine ⟨by simpa using some, fun segment member => ?_⟩
    obtain ⟨inside, written⟩ := List.mem_filter.mp member
    have steps : segment ≠ "." ∧ segment ≠ ".." := by
      simp only [List.any_eq_true, not_exists, not_and] at plain
      simpa using plain segment member
    exact ⟨⟨by simpa using written, steps.1, steps.2⟩, Path.not_mem_of_mem_parts inside⟩

theorem fileOf_concat (directory : String) (front : List String) (last : String) (format : Format) :
    fileOf directory (front ++ [last]) format =
      Path.join (front.foldl Path.join directory) (Path.withExtension last format.extension) := by
  rw [fileOf, List.dropLast_concat, List.getLast?_concat, Option.getD_some]

/-- A candidate for a document stands below the directory, unless it is a step upwards and no file. -/
theorem fileOf_cases (some : segments ≠ []) (plain : ∀ segment ∈ segments, IsPlain segment)
    (format : Format) : Below directory (fileOf directory segments format) ∨
      ∀ tree : FileTree, tree.isFile (fileOf directory segments format) = false := by
  obtain ⟨front, last, rfl⟩ := (List.eq_nil_or_concat' segments).resolve_left some
  have before : ∀ segment ∈ front, IsPlain segment := fun segment member =>
    plain segment (List.mem_append_left _ member)
  obtain ⟨steps, absolute⟩ := Path.steps_foldl_join before directory
  have ending : '/' ∉ format.extension.toList ∧ 1 < format.extension.length := by
    cases format <;> decide
  rw [fileOf_concat]
  rcases Path.withExtension_cases (plain last (by simp)) ending.1 ending.2 with up | named
  · rw [up]
    exact .inr fun tree => FileTree.isFile_join_up tree _
  · refine .inl ((Path.below_join_name named _).trans ⟨front, steps, fun name member => ?_⟩ absolute)
    exact (before name member).toIsName

/-- The files of the documents of a directory stand below it, and a path that goes up has none. -/
structure Confined (directory path : String) : Prop where
  file : ∀ tree format file, file? tree directory path = some (format, file) → Below directory file
  load : ∀ tree tree', FileTree.SameBelow directory tree tree' →
    load tree directory path = load tree' directory path
  refused : ".." ∈ Path.parts path → ∀ tree, Document.load tree directory path = .error (.notFound path)

theorem file?_below {tree : FileTree} {format : Format} {file : String}
    (found : file? tree directory path = some (format, file)) :
    Below directory file := by
  obtain ⟨segments, named, first⟩ := Option.bind_eq_some_iff.mp found
  obtain ⟨some, plain⟩ := isPlain_of_segments? named
  have there : tree.isFile file = true := by simpa using List.find?_some first
  obtain ⟨other, -, same⟩ := List.mem_map.mp (List.mem_of_find?_eq_some first)
  obtain ⟨rfl, rfl⟩ := Prod.mk.inj same
  obtain below | none : Below directory (fileOf directory segments other) ∨ _ :=
    fileOf_cases some plain other
  · exact below
  · rw [none tree] at there
    cases there

theorem file?_congr {tree tree' : FileTree} (same : FileTree.SameBelow directory tree tree')
    (path : String) : file? tree directory path = file? tree' directory path := by
  unfold file?
  cases named : segments? path with
  | none => rw [Option.bind_none, Option.bind_none]
  | some segments =>
    obtain ⟨some, plain⟩ := isPlain_of_segments? named
    have each (format : Format) : tree.isFile (fileOf directory segments format) =
        tree'.isFile (fileOf directory segments format) := by
      rcases fileOf_cases some plain format with below | none
      · exact same.isFile below
      · rw [none tree, none tree']
    simp only [Option.bind_some, List.map_cons, List.map_nil, List.find?_cons, each,
      List.find?_nil]

theorem confined (directory path : String) : Confined directory path where
  file _ _ _ := file?_below
  load tree tree' same := by
    unfold Document.load
    rw [file?_congr same path]
    cases found : file? tree' directory path with
    | none => rfl
    | some pair =>
      obtain ⟨format, file⟩ := pair
      simp only [readFile, same.readText (file?_below found)]
  refused up tree := by
    have none : segments? path = none := by
      cases named : segments? path with
      | none => rfl
      | some segments =>
        obtain ⟨-, plain⟩ := isPlain_of_segments? named
        unfold segments? at named
        dsimp only at named
        split at named
        next => cases named
        next =>
          obtain rfl := Option.some.inj named
          exact absurd rfl (plain ".." (List.mem_filter.mpr ⟨up, rfl⟩)).above
    rw [Document.load, file?, none]
    rfl

end Document

/-! ## Resources -/

namespace Resource

/-- The resources of a root stand below it; absolute targets and those that go up are refused. -/
structure Confined (root target : String) : Prop where
  file : ∀ tree reply, read root tree (.str target) = .ok (.ok reply) →
    Below root (Path.join root target) ∧
      ∃ text, reply = .str text ∧ tree.readText (Path.join root target) = .ok text
  fault : ∀ tree fault, read root tree (.str target) = .error fault →
    ∃ path error, fault = .read path error ∧ Below root path
  read : ∀ tree tree', FileTree.SameBelow root tree tree' →
    read root tree (.str target) = read root tree' (.str target)
  refused : Path.isAbsolute target = true ∨ ".." ∈ Path.parts target → ∀ tree,
    Resource.read root tree (.str target) =
      .ok (.failed ("resource '" ++ target ++ "' is outside the project"))

variable {tree : FileTree} {root target : String}

theorem isInside_iff : isInside target = true ↔
    Path.isAbsolute target = false ∧ ".." ∉ Path.parts target := by
  simp only [isInside, Bool.and_eq_true, Bool.not_eq_true', List.all_eq_true, bne_iff_ne]
  exact and_congr_right fun _ => ⟨fun all up => all ".." up rfl, fun none part member up =>
    none (up ▸ member)⟩

/-- A file that a target inside the project names ends in a name, so it stands below the root. -/
theorem below_of_isFile (inside : isInside target = true)
    (there : tree.isFile (Path.join root target) = true) : Below root (Path.join root target) := by
  obtain ⟨relative, down⟩ := isInside_iff.mp inside
  obtain ⟨last, ends, named⟩ := FileTree.isName_of_isFile there
  rw [Path.getLast?_parts_join relative] at ends
  have step : last ∈ Path.steps target :=
    Path.mem_moves.mpr ⟨List.mem_of_getLast? ends, named.written, named.here⟩
  exact Path.below_join relative down (List.ne_nil_of_mem step) root

theorem isFile_congr {tree' : FileTree} (same : FileTree.SameBelow root tree tree')
    (inside : isInside target = true) :
    tree.isFile (Path.join root target) = tree'.isFile (Path.join root target) := by
  by_cases below : Below root (Path.join root target)
  · exact same.isFile below
  · have none (tree : FileTree) : tree.isFile (Path.join root target) = false :=
      Bool.eq_false_iff.mpr fun there => below (below_of_isFile inside there)
    rw [none tree, none tree']

theorem read_outside (outside : isInside target = false) (tree : FileTree) (root : String) :
    Resource.read root tree (.str target) =
      .ok (.failed ("resource '" ++ target ++ "' is outside the project")) := by
  simp only [Resource.read, outside, Bool.not_false, ↓reduceIte]

theorem read_missing (inside : isInside target = true)
    (missing : tree.isFile (Path.join root target) = false) :
    Resource.read root tree (.str target) =
      .ok (.failed ("resource '" ++ target ++ "' not found")) := by
  simp only [Resource.read, inside, missing, Bool.not_true, Bool.not_false, Bool.false_eq_true,
    ↓reduceIte]

theorem read_there (inside : isInside target = true)
    (there : tree.isFile (Path.join root target) = true) :
    Resource.read root tree (.str target) =
      match tree.readText (Path.join root target) with
      | .ok text => .ok (.ok (.str text))
      | .error e => .error (.read (Path.join root target) e) := by
  cases read : tree.readText (Path.join root target) <;>
    simp only [Resource.read, inside, there, read, Bool.not_true, Bool.false_eq_true, ↓reduceIte]

theorem read_cases (tree : FileTree) (root target : String) :
    (∃ message, Resource.read root tree (.str target) = .ok (.failed message)) ∨
      (Below root (Path.join root target) ∧ Resource.read root tree (.str target) =
        match tree.readText (Path.join root target) with
        | .ok text => .ok (.ok (.str text))
        | .error e => .error (.read (Path.join root target) e)) := by
  cases inside : isInside target with
  | false => exact .inl ⟨_, read_outside inside tree root⟩
  | true =>
    cases there : tree.isFile (Path.join root target) with
    | false => exact .inl ⟨_, read_missing inside there⟩
    | true => exact .inr ⟨below_of_isFile inside there, read_there inside there⟩

theorem confined (root target : String) : Confined root target where
  file tree reply answered := by
    rcases read_cases tree root target with ⟨message, failed⟩ | ⟨below, found⟩
    · rw [failed] at answered
      cases answered
    · rw [found] at answered
      split at answered
      next text there =>
        cases answered
        exact ⟨below, text, rfl, there⟩
      next => cases answered
  fault tree fault faulted := by
    rcases read_cases tree root target with ⟨message, failed⟩ | ⟨below, found⟩
    · rw [failed] at faulted
      cases faulted
    · rw [found] at faulted
      split at faulted
      next => cases faulted
      next e _ =>
        cases faulted
        exact ⟨_, e, rfl, below⟩
  read tree tree' same := by
    cases inside : isInside target with
    | false => rw [read_outside inside, read_outside inside]
    | true =>
      have alike := isFile_congr same inside
      cases there : tree'.isFile (Path.join root target) with
      | false => rw [read_missing inside there, read_missing inside (alike.trans there)]
      | true =>
        rw [read_there inside there, read_there inside (alike.trans there),
          same.readText (below_of_isFile inside there)]
  refused outside tree := by
    refine read_outside (Bool.eq_false_iff.mpr fun inside => ?_) tree root
    obtain ⟨relative, down⟩ := isInside_iff.mp inside
    rcases outside with absolute | up
    · rw [absolute] at relative
      cases relative
    · exact down up

end Resource

/-! ## Tables -/

namespace Table

variable {directory name table path : String} {record : Value} {tree : FileTree}

theorem path?_below (found : path? directory table = some path) :
    Below directory path ∧ Below directory (Path.temporary path) := by
  obtain ⟨valid, rfl⟩ := of_path? found
  have plain := isPlain_of_validName valid
  exact ⟨Path.below_join_name plain directory, Path.below_temporary plain directory⟩

/-- A request touches no file but the table's own one and the temporary one beside it, and a table
name that goes up is refused before any file is touched. -/
structure Confined (directory name : String) (record : Value) : Prop where
  file : ∀ table path, path? directory table = some path →
    Below directory path ∧ Below directory (Path.temporary path)
  fault : ∀ tree fault, (invoke directory name record tree).1 = .error (.file fault) →
    Below directory fault.path ∨ fault.path = Path.trimmed directory
  read : ∀ tree tree', FileTree.SameBelow directory tree tree' →
    (invoke directory name record tree).1 = (invoke directory name record tree').1 ∨
      ∃ fault, (∀ path error, fault ≠ .read path error) ∧
        ((invoke directory name record tree).1 = .error (.file fault) ∨
          (invoke directory name record tree').1 = .error (.file fault))
  write : ∀ tree place, (invoke directory name record tree).2.node? place = tree.node? place ∨
    (tree.node? place = none ∧
      (invoke directory name record tree).2.node? place = some .directory) ∨
    ∃ file, Below directory file ∧
      (invoke directory name record tree).2.locate? file = some place
  refused : ∀ table, tableOf? record = some table → ".." ∈ Path.parts table →
    ∃ refusal, (refusal = .error (.invalidName table) ∨ ∃ message, refusal = .ok (.failed message)) ∧
      ∀ tree, invoke directory name record tree = (refusal, tree)

/-- Two trees that hold the same rows give the same answer unless writing fails in one of them. -/
theorem run_congr {action : Action} {tree' : FileTree}
    (same : FileTree.SameBelow directory tree tree') :
    (run tree directory table action).1 = (run tree' directory table action).1 ∨
      ∃ fault : FileFault, (∀ path error, fault ≠ .read path error) ∧
        ((run tree directory table action).1 = .error (.file fault) ∨
          (run tree' directory table action).1 = .error (.file fault)) := by
  unfold run
  cases found : path? directory table with
  | none => exact .inl rfl
  | some path =>
    dsimp only
    rw [readRows_congr (same path (path?_below found).1)]
    split
    next => exact .inl rfl
    next rows _ =>
      split
      next => exact .inl rfl
      next => exact .inl rfl
      next changed _ =>
        split
        next fault _ lost => exact .inr ⟨fault, (FileTree.writeAtomic_fault lost).2, .inl rfl⟩
        next =>
          split
          next fault _ lost => exact .inr ⟨fault, (FileTree.writeAtomic_fault lost).2, .inr rfl⟩
          next => exact .inl rfl

theorem path?_eq_none (up : ".." ∈ Path.parts table) : path? directory table = none := by
  obtain ⟨piece, cut, dots⟩ := List.mem_map.mp up
  have pointed : '.' ∈ table.toList := by
    refine Text.subset_of_mem_fields cut ?_
    rw [show piece = ['.', '.'] from by simpa using congrArg String.toList dots]
    exact List.mem_cons_self
  have invalid : validName table ≠ true := fun valid => by
    have each := (Bool.and_eq_true_iff.mp valid).2
    exact absurd (List.all_eq_true.mp each '.' pointed) (by decide)
  rw [path?, if_neg invalid]

theorem fault_path {action : Action} {fault : FileFault}
    (faulted : (run tree directory table action).1 = .error (.file fault)) :
    Below directory fault.path ∨ fault.path = Path.trimmed directory := by
  have ends := run_ends tree directory table action
  generalize run tree directory table action = result at ends faulted
  cases ends with
  | invalid => cases faulted
  | unreadable found lost =>
    obtain rfl := Except.error.inj faulted
    obtain ⟨error, rfl⟩ := fault_of_readRows lost
    exact .inl (path?_below found).1
  | overflowed => cases faulted
  | looked => cases faulted
  | wrote => cases faulted
  | faulted found _ _ lost =>
    obtain rfl := Error.file.inj (Except.error.inj faulted)
    obtain ⟨own, beside⟩ := path?_below found
    rcases (FileTree.writeAtomic_fault lost).1 with same | same | same
    · obtain ⟨valid, rfl⟩ := of_path? found
      rw [Path.parent?_join (isPlain_of_validName valid)] at same
      exact .inr same
    · exact .inl (same ▸ beside)
    · exact .inl (same ▸ own)

theorem confined (directory name : String) (record : Value) : Confined directory name record where
  file _ _ := path?_below
  fault tree fault faulted := by
    rcases invoke_cases directory name record with ⟨message, -, failed⟩ | ⟨table, action, -, -, runs⟩
    · rw [failed] at faulted
      cases faulted
    · rw [runs] at faulted
      exact fault_path faulted
  read tree tree' same := by
    rcases invoke_cases directory name record with ⟨message, -, failed⟩ | ⟨table, action, -, -, runs⟩
    · exact .inl (by rw [failed, failed])
    · rw [runs, runs]
      exact run_congr same
  write tree place := by
    rcases invoke_cases directory name record with ⟨message, -, failed⟩ | ⟨table, action, -, -, runs⟩
    · exact .inl (by rw [failed])
    · have left (path : String) (rows : List Value) (fault : Option FileFault) (after : FileTree)
          (found : path? directory table = some path)
          (attempted : tree.writeAtomic path (text rows) = (fault, after)) :
          after.node? place = tree.node? place ∨
            (tree.node? place = none ∧ after.node? place = some .directory) ∨
              ∃ file, Below directory file ∧ after.locate? file = some place := by
        obtain ⟨own, beside⟩ := path?_below found
        rcases FileTree.writeAtomic_node? attempted place with same | made | ⟨file, one, located⟩
        · exact .inl same
        · exact .inr (.inl made)
        · exact .inr (.inr ⟨file, one.elim (fun same => same ▸ own) fun same => same ▸ beside, located⟩)
      have ends := run_ends tree directory table action
      rw [runs]
      generalize run tree directory table action = result at ends
      cases ends with
      | invalid => exact .inl rfl
      | unreadable => exact .inl rfl
      | overflowed => exact .inl rfl
      | looked => exact .inl rfl
      | wrote found _ _ stored => exact left _ _ _ _ found stored
      | faulted found _ _ lost => exact left _ _ _ _ found lost
  refused table named up := by
    rcases invoke_cases directory name record with ⟨message, -, failed⟩ | ⟨other, action, same, -, runs⟩
    · exact ⟨_, .inr ⟨message, rfl⟩, failed⟩
    · obtain rfl := (names_iff.mpr named).unique same
      refine ⟨_, .inl rfl, fun tree => ?_⟩
      rw [runs, run, path?_eq_none up]

end Table

/-- Whatever a path, a target or a table is called, the files that are read and written for it stand
below the directory; names that lead out of it are refused, and no file is touched for them. -/
theorem files_stay_below (directory : String) :
    (∀ path, Document.Confined directory path) ∧ (∀ target, Resource.Confined directory target) ∧
      ∀ name record, Table.Confined directory name record :=
  ⟨Document.confined directory, Resource.confined directory, Table.confined directory⟩

end Signpost
