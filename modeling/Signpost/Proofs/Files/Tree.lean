import Mathlib.Data.List.DropRight
import Signpost.Files.Tree
import Signpost.Proofs.Files.Path
import Signpost.Proofs.Text.Utf8

/-! What is written into a file is found there again.

A path is followed through directories only. Writing and moving change what stands at places that are
no directories, so every path still leads where it has led. -/

namespace Signpost

theorem Path.parts_below {directory path : String}
    (inside : path.startsWith (directory ++ "/") = true) : Path.parts path =
      Path.parts directory ++ Path.parts (path.drop (directory.length + 1)).toString := by
  obtain ⟨rest, split⟩ := String.startsWith_string_iff.mp inside
  have whole : path.toList = directory.toList ++ '/' :: rest := by simp [← split]
  have below : (path.drop (directory.length + 1)).toString.toList = rest := by
    have behind : (path.drop (directory.length + 1)).toString.toList =
        path.toList.drop (directory.length + 1) := by simp
    rw [behind, whole, ← String.length_toList, List.drop_append]
    simp
  simp only [Path.parts, below, whole, Text.fields_append, List.map_append]

def FileFault.path : FileFault → String
  | read path _ | createDirectory path _ | writeTemporary path _ | write path _ | replace path _ => path

namespace FileTree

variable {tree tree' : FileTree} {place other : List String} {node : FileNode}

/-! ## Places -/

theorem lookup_setIn (nodes : List (List String × FileNode)) :
    (setIn place node nodes).lookup other =
      if other = place then some node else nodes.lookup other := by
  induction nodes with
  | nil =>
    by_cases same : other = place
    · simp [setIn, same]
    · simp [setIn, List.lookup_cons, beq_false_of_ne same, same]
  | cons entry rest ih =>
    obtain ⟨first, old⟩ := entry
    unfold setIn
    by_cases here : first = place
    · subst here
      by_cases same : other = first
      · simp [same]
      · simp [List.lookup_cons, beq_false_of_ne same, same]
    · by_cases same : other = first
      · subst same
        simp [here]
      · simp [List.lookup_cons, here, beq_false_of_ne same, ih]

theorem node?_set_self (below : place ≠ []) : (tree.set place node).node? place = some node := by
  simp [node?, set, lookup_setIn, below]

theorem node?_set_of_ne (different : other ≠ place) :
    (tree.set place node).node? other = tree.node? other := by
  simp [node?, set, lookup_setIn, different]

theorem node?_remove_of_ne (different : other ≠ place) :
    (tree.remove place).node? other = tree.node? other := by
  have kept : (tree.nodes.filter fun entry => entry.1 != place).lookup other =
      tree.nodes.lookup other := by
    induction tree.nodes with
    | nil => rfl
    | cons entry rest ih =>
      obtain ⟨name, old⟩ := entry
      by_cases gone : name = place
      · have passed : other ≠ name := gone ▸ different
        simp [gone, List.lookup_cons, beq_false_of_ne different, ih]
      · simp [gone, List.lookup_cons, ih]
  simp only [node?, remove, kept]

theorem isDirectoryAt_remove (free : tree.isDirectoryAt other = false) :
    (tree.remove place).isDirectoryAt other = false := by
  by_cases same : other = place
  · subst same
    have below : other ≠ [] := by
      rintro rfl
      cases free
    have absent : (tree.nodes.filter fun entry => entry.1 != other).lookup other = none :=
      List.lookup_eq_none_iff.mpr fun entry member => by
        simpa [bne_comm] using (List.mem_filter.mp member).2
    have gone : (tree.remove other).node? other = none := by
      rw [node?, if_neg (by simp [below])]
      exact absent
    rw [isDirectoryAt, gone]
    rfl
  · rwa [isDirectoryAt, node?_remove_of_ne same]

/-- The directories of the first tree are directories of the second one, and paths start at the same
places. -/
structure Spares (tree tree' : FileTree) : Prop where
  mount : tree'.mount = tree.mount
  start : tree'.start = tree.start
  directory : ∀ place, tree.isDirectoryAt place = true → tree'.isDirectoryAt place = true

namespace Spares

theorem set (free : tree.isDirectoryAt place = false) : tree.Spares (tree.set place node) where
  mount := rfl
  start := rfl
  directory other there := by
    have different : other ≠ place := by
      rintro rfl
      rw [there] at free
      cases free
    rwa [isDirectoryAt, node?_set_of_ne different]

theorem remove (free : tree.isDirectoryAt place = false) : tree.Spares (tree.remove place) where
  mount := rfl
  start := rfl
  directory other there := by
    have different : other ≠ place := by
      rintro rfl
      rw [there] at free
      cases free
    rwa [isDirectoryAt, node?_remove_of_ne different]

theorem follow (spares : tree.Spares tree') {parts : List String} {target : List String}
    (found : tree.follow place parts = some target) : tree'.follow place parts = some target := by
  induction parts generalizing place with
  | nil => exact found
  | cons part parts ih =>
    unfold FileTree.follow at found ⊢
    split at found
    next => cases found
    next entered =>
      have there : tree.isDirectoryAt place = true := by simpa using entered
      rw [if_neg (by simp [spares.directory place there])]
      split
      next step =>
        rw [if_pos step] at found
        exact ih found
      next name =>
        rw [if_neg name] at found
        split
        next up =>
          rw [if_pos up] at found
          split
          next top =>
            rw [if_pos top] at found
            cases found
          next inside =>
            rw [if_neg inside] at found
            exact ih found
        next down =>
          rw [if_neg down] at found
          exact ih found

theorem partsBelow? (spares : tree.Spares tree') (path : String) :
    tree'.partsBelow? path = tree.partsBelow? path := by
  unfold FileTree.partsBelow?
  rw [spares.mount, spares.start]

theorem locate? (spares : tree.Spares tree') {path : String}
    (found : tree.locate? path = some place) : tree'.locate? path = some place := by
  obtain ⟨parts, below, followed⟩ := Option.bind_eq_some_iff.mp found
  unfold FileTree.locate?
  rw [spares.partsBelow?, below]
  exact spares.follow followed

end Spares

/-! ## Writing -/

structure Stores (tree : FileTree) (path : String) (place : List String) (content : Text.Bytes) :
    Prop where
  located : tree.locate? path = some place
  stored : tree.node? place = some (.file content)

theorem ne_nil_of_free (free : tree.isDirectoryAt place = false) : place ≠ [] := by
  rintro rfl
  cases free

theorem isDirectoryAt_of_file {content : Text.Bytes} (stored : tree.node? place = some (.file content)) :
    tree.isDirectoryAt place = false := by
  rw [isDirectoryAt, stored]
  rfl

theorem Stores.free {path : String} {content : Text.Bytes} (stores : tree.Stores path place content) :
    tree.isDirectoryAt place = false := isDirectoryAt_of_file stores.stored

theorem stores_set {path : String} {content : Text.Bytes} (located : tree.locate? path = some place)
    (free : tree.isDirectoryAt place = false) :
    (tree.set place (.file content)).Stores path place content where
  located := (Spares.set free).locate? located
  stored := node?_set_self (ne_nil_of_free free)

theorem writeFile_eq {path : String} {content : Text.Bytes}
    (wrote : tree.writeFile path content = .ok tree') :
    ∃ place, tree.locate? path = some place ∧ tree.isDirectoryAt place = false ∧
      tree' = tree.set place (.file content) := by
  unfold writeFile at wrote
  split at wrote
  next => cases wrote
  next place located =>
    split at wrote
    next => cases wrote
    next free =>
      split at wrote
      next =>
        cases wrote
        exact ⟨place, located, by simpa using free, rfl⟩
      next => cases wrote

theorem writeFile_ok {path : String} {content : Text.Bytes}
    (wrote : tree.writeFile path content = .ok tree') :
    ∃ place, tree'.Stores path place content := by
  obtain ⟨place, located, free, rfl⟩ := writeFile_eq wrote
  exact ⟨place, stores_set located free⟩

/-- A file that is moved has a name, so its path does not end in a step or in a slash. -/
theorem last_of_refusal? {parts : List String} (allowed : tree.refusal? parts = none) {last : String}
    (ends : parts.getLast? = some last) : last ≠ "" ∧ last ≠ "." ∧ last ≠ ".." := by
  simp only [refusal?, ← List.rdropWhile.eq_def] at allowed
  split at allowed
  next => cases allowed
  next =>
    split at allowed
    next => cases allowed
    next proper =>
      split at allowed
      next => cases allowed
      next whole =>
        have same : parts.rdropWhile (· == "") = parts :=
          (List.rdropWhile_prefix _ parts).eq_of_length_le (Nat.le_of_not_lt whole)
        rw [same, ends] at proper
        have member := List.mem_of_getLast? ends
        have named := List.rdropWhile_eq_self_iff.mp same (List.ne_nil_of_mem member)
        rw [List.getLast_of_getLast?_eq_some ends] at named
        simpa using And.intro named proper

theorem replaceFile_eq {source path : String} (replaced : tree.replaceFile source path = .ok tree') :
    ∃ origin place content, tree.locate? source = some origin ∧ tree.locate? path = some place ∧
      tree.node? origin = some (.file content) ∧ tree.isDirectoryAt place = false ∧
        (tree.partsBelow? path).bind tree.refusal? = none ∧
          tree' = (tree.remove origin).set place (.file content) := by
  unfold replaceFile at replaced
  split at replaced
  next => cases replaced
  next allowed =>
    split at replaced
    next origin place located found =>
      split at replaced
      next content stored =>
        split at replaced
        next => cases replaced
        next free =>
          cases replaced
          exact ⟨origin, place, content, located, found, stored, by simpa using free, allowed, rfl⟩
      next => cases replaced
    next => cases replaced

theorem replaceFile_ok {source path : String} {content : Text.Bytes} {origin : List String}
    (stores : tree.Stores source origin content)
    (replaced : tree.replaceFile source path = .ok tree') :
    ∃ place, tree'.Stores path place content ∧
      (tree'.partsBelow? path).bind tree.refusal? = none := by
  obtain ⟨_, place, _, located, found, stored, free, allowed, rfl⟩ := replaceFile_eq replaced
  obtain rfl := Option.some.inj (stores.located.symm.trans located)
  obtain rfl := FileNode.file.inj (Option.some.inj (stores.stored.symm.trans stored))
  have kept := (Spares.remove (isDirectoryAt_of_file stored)).locate? found
  exact ⟨place, stores_set kept (isDirectoryAt_remove free), allowed⟩

theorem getLast?_of_partsBelow? {path : String} {parts : List String}
    (below : tree.partsBelow? path = some parts) :
    path = tree.mount ∨ parts.getLast? = (Path.parts path).getLast? := by
  unfold partsBelow? at below
  split at below
  next mount => exact .inl mount
  next =>
    refine .inr ?_
    split at below
    next inside =>
      rw [← Option.some.inj below, Path.parts_below inside,
        List.getLast?_append_of_ne_nil _ (Path.parts_ne_nil _)]
    next =>
      split at below
      next => cases below
      next =>
        rw [← Option.some.inj below, List.getLast?_append_of_ne_nil _ (Path.parts_ne_nil path)]

theorem Stores.readText {path text : String} (stores : tree.Stores path place (Text.encode text))
    (allowed : (tree.partsBelow? path).bind tree'.refusal? = none) :
    tree.has path = true ∧ tree.readText path = .ok text := by
  obtain ⟨parts, below, followed⟩ := Option.bind_eq_some_iff.mp stores.located
  have named :
      ((Path.parts path).all fun part => part = "" || part = "." || part = "..") = false := by
    rcases getLast?_of_partsBelow? below with mount | same
    · have top : parts = [] := by simpa [partsBelow?, mount] using below.symm
      subst top
      cases followed
      exact absurd rfl (ne_nil_of_free stores.free)
    · rw [below] at allowed
      obtain ⟨last, ends⟩ : ∃ last, (Path.parts path).getLast? = some last :=
        ⟨_, List.getLast?_eq_getLast_of_ne_nil (Path.parts_ne_nil path)⟩
      obtain ⟨written, here, above⟩ := last_of_refusal? allowed (same.trans ends)
      exact List.all_eq_false.mpr
        ⟨last, List.mem_of_getLast? ends, by simp [written, here, above]⟩
  have found : tree.lookup? path = some (.file (Text.encode text)) := by
    simp only [lookup?, named, Bool.false_eq_true, ↓reduceIte, stores.located, Option.bind_some,
      stores.stored]
  constructor
  · rw [has, found]
    rfl
  · simp only [FileTree.readText, found, Text.decode?_encode]

theorem writeAtomic_ok {path text : String} (written : tree.writeAtomic path text = (none, tree')) :
    tree'.has path = true ∧ tree'.readText path = .ok text := by
  unfold writeAtomic at written
  dsimp only at written
  split at written
  next => cases written
  next =>
    split at written
    next => cases written
    next wrote =>
      split at written
      next => cases written
      next replaced =>
        cases written
        obtain ⟨origin, stored⟩ := writeFile_ok wrote
        obtain ⟨place, stores, allowed⟩ := replaceFile_ok stored replaced
        exact stores.readText allowed

theorem writeAtomic_fault {path text : String} {fault : FileFault}
    (attempted : tree.writeAtomic path text = (some fault, tree')) :
    (fault.path = (Path.parent? path).getD "" ∨ fault.path = Path.temporary path ∨
      fault.path = path) ∧ ∀ file error, fault ≠ .read file error := by
  unfold writeAtomic at attempted
  generalize Path.temporary path = beside at attempted ⊢
  dsimp only at attempted
  split at attempted
  next =>
    cases attempted
    exact ⟨.inl rfl, nofun⟩
  next =>
    split at attempted
    next =>
      cases attempted
      exact ⟨.inr (.inl rfl), nofun⟩
    next =>
      split at attempted
      next =>
        cases attempted
        exact ⟨.inr (.inr rfl), nofun⟩
      next => cases attempted

end FileTree

end Signpost
