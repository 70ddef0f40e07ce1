import Signpost.Proofs.Files.Tree

/-! Where the parts of a path lead.

A path is followed from one directory to the next, so every place that is passed is a directory and a
file stands at the end of a name only. Directories that are made on the way stand where nothing has
stood, and nothing that was there moves. -/

namespace Signpost.FileTree

open Signpost.Path (IsName IsPlain moves)

variable {tree tree' : FileTree} {place target : List String} {parts : List String}

/-! ## Following -/

theorem follow_append (tree : FileTree) (place parts others : List String) :
    tree.follow place (parts ++ others) =
      (tree.follow place parts).bind fun middle => tree.follow middle others := by
  induction parts generalizing place with
  | nil => rfl
  | cons part parts ih =>
    simp only [List.cons_append, follow]
    split
    · rfl
    · split
      · exact ih place
      · split
        · split
          · rfl
          · exact ih place.dropLast
        · exact ih (place ++ [part])

theorem follow_name {name : String} (named : IsName name) (tree : FileTree) (place rest : List String) :
    tree.follow place (name :: rest) =
      if tree.isDirectoryAt place then tree.follow (place ++ [name]) rest else none := by
  simp only [follow, named.written, named.here, named.above, ↓reduceIte]
  cases tree.isDirectoryAt place <;> rfl

def Reached (tree : FileTree) (place : List String) : Prop :=
  ∀ front name, front ++ [name] <+: place → tree.isDirectoryAt front = true

theorem reached_nil (tree : FileTree) : tree.Reached [] := by
  intro front name before
  simp at before

theorem Reached.above (reached : tree.Reached place) : tree.Reached place.dropLast :=
  fun front name before => reached front name (before.trans (List.dropLast_prefix place))

theorem Reached.below (reached : tree.Reached place) (there : tree.isDirectoryAt place = true)
    (name : String) : tree.Reached (place ++ [name]) := by
  intro front other before
  rcases List.prefix_concat_iff.mp before with whole | inside
  · rwa [(List.append_inj' whole rfl).1]
  · exact reached front other inside

theorem Reached.follow (reached : tree.Reached place) (found : tree.follow place parts = some target) :
    tree.Reached target := by
  induction parts generalizing place with
  | nil => exact Option.some.inj found ▸ reached
  | cons part parts ih =>
    unfold FileTree.follow at found
    split at found
    next => cases found
    next entered =>
      have there : tree.isDirectoryAt place = true := by simpa using entered
      split at found
      next => exact ih reached found
      next =>
        split at found
        next =>
          split at found
          next => cases found
          next => exact ih reached.above found
        next => exact ih (reached.below there part) found

theorem isDirectoryAt_of_unnamed {lead : List String} {last : String}
    (found : tree.follow [] (lead ++ [last]) = some target) (unnamed : ¬IsName last) :
    tree.isDirectoryAt target = true := by
  rw [follow_append] at found
  obtain ⟨middle, passed, found⟩ := Option.bind_eq_some_iff.mp found
  have reached : tree.Reached middle := (reached_nil tree).follow passed
  unfold follow at found
  split at found
  next => cases found
  next entered =>
    split at found
    next =>
      cases found
      simpa using entered
    next written =>
      split at found
      next =>
        split at found
        next => cases found
        next deeper =>
          cases found
          have inside : middle ≠ [] := by simpa using deeper
          refine reached middle.dropLast (middle.getLast inside) ?_
          simp only [List.dropLast_append_getLast, List.prefix_rfl]
      next above =>
        obtain ⟨here, point⟩ := not_or.mp (by simpa using written)
        exact absurd ⟨here, point, above⟩ unnamed

theorem lookup?_file {path : String} {content : Text.Bytes}
    (there : tree.lookup? path = some (.file content)) : ∃ parts place,
      tree.partsBelow? path = some parts ∧ tree.follow [] parts = some place ∧
        tree.node? place = some (.file content) := by
  unfold lookup? at there
  split at there
  next => split at there <;> cases there
  next =>
    obtain ⟨place, located, stored⟩ := Option.bind_eq_some_iff.mp there
    obtain ⟨parts, below, followed⟩ := Option.bind_eq_some_iff.mp located
    exact ⟨parts, place, below, followed, stored⟩

theorem place_of_isFile {path : String} (there : tree.isFile path = true) : ∃ parts place,
    tree.partsBelow? path = some parts ∧ tree.follow [] parts = some place ∧
      tree.isDirectoryAt place = false := by
  unfold isFile at there
  split at there
  next content found =>
    obtain ⟨parts, place, below, followed, stored⟩ := lookup?_file found
    have free : tree.isDirectoryAt place = false := by
      rw [isDirectoryAt, stored]
      rfl
    exact ⟨parts, place, below, followed, free⟩
  next => cases there

theorem isName_of_isFile {path : String} (there : tree.isFile path = true) :
    ∃ last, (Path.parts path).getLast? = some last ∧ IsName last := by
  obtain ⟨parts, place, below, followed, free⟩ := place_of_isFile there
  have ends := List.getLast?_eq_getLast_of_ne_nil (Path.parts_ne_nil path)
  refine ⟨_, ends, ?_⟩
  by_contra unnamed
  rcases getLast?_of_partsBelow? below with mount | same
  · have top : parts = [] := by simpa [partsBelow?, mount] using below.symm
    subst top
    cases followed
    cases free
  · obtain ⟨lead, split⟩ := List.getLast?_eq_some_iff.mp (same.trans ends)
    rw [split] at followed
    rw [isDirectoryAt_of_unnamed followed unnamed] at free
    cases free

/-- No file stands at the end of a step upwards. -/
theorem isFile_join_up (tree : FileTree) (directory : String) :
    tree.isFile (Path.join directory "..") = false := by
  apply Bool.eq_false_iff.mpr
  intro there
  obtain ⟨name, ends, named⟩ := isName_of_isFile there
  obtain ⟨lead, split⟩ := Path.parts_join (show '/' ∉ "..".toList by decide) directory
  rw [split, List.getLast?_concat] at ends
  exact named.above (Option.some.inj ends).symm

/-! ## Steps alone -/

theorem isDirectoryAt_of_follow (found : tree.follow place parts = some target)
    (there : tree.isDirectoryAt target = true) : tree.isDirectoryAt place = true := by
  cases parts with
  | nil => exact Option.some.inj found ▸ there
  | cons part parts =>
    unfold follow at found
    split at found
    next => cases found
    next entered => simpa using entered

theorem moves_cons_of_not {part : String} (nowhere : part = "" ∨ part = ".") (parts : List String) :
    moves (part :: parts) = moves parts := by
  rcases nowhere with rfl | rfl <;> rfl

theorem moves_cons_of {part : String} (written : part ≠ "") (here : part ≠ ".")
    (parts : List String) : moves (part :: parts) = part :: moves parts := by
  simp [moves, written, here]

theorem follow_moves_iff (there : tree.isDirectoryAt target = true) :
    tree.follow place (moves parts) = some target ↔ tree.follow place parts = some target := by
  induction parts generalizing place with
  | nil => rfl
  | cons part parts ih =>
    by_cases nowhere : part = "" ∨ part = "."
    · rw [moves_cons_of_not nowhere, ih]
      have stays : tree.follow place (part :: parts) =
          if tree.isDirectoryAt place then tree.follow place parts else none := by
        simp only [follow, Bool.or_eq_true, decide_eq_true_eq, nowhere, ↓reduceIte]
        cases tree.isDirectoryAt place <;> rfl
      rw [stays]
      constructor
      · intro found
        rw [if_pos (isDirectoryAt_of_follow found there), found]
      · intro found
        split at found
        next => exact found
        next => cases found
    · obtain ⟨written, here⟩ := not_or.mp nowhere
      rw [moves_cons_of written here]
      unfold follow
      split_ifs
      · rfl
      · exact ih
      · rfl
      · exact ih
      · exact ih

/-- A name behind the steps to a directory leads where it leads behind the whole way. -/
theorem follow_moves_name {name : String} (named : IsName name) (tree : FileTree)
    (place lead : List String) :
    tree.follow place (moves lead ++ [name]) = tree.follow place (lead ++ [name]) := by
  rw [follow_append, follow_append]
  ext found
  simp only [Option.bind_eq_some_iff]
  refine exists_congr fun middle => ?_
  rw [follow_name named]
  by_cases there : tree.isDirectoryAt middle = true
  · rw [follow_moves_iff there]
  · simp [there]

theorem makeDirectories_moves (tree : FileTree) (place parts : List String) :
    tree.makeDirectories place (moves parts) = tree.makeDirectories place parts := by
  induction parts generalizing tree place with
  | nil => rfl
  | cons part parts ih =>
    by_cases nowhere : part = "" ∨ part = "."
    · rw [moves_cons_of_not nowhere, ih]
      simp only [makeDirectories, Bool.or_eq_true, decide_eq_true_eq, nowhere, ↓reduceIte]
    · obtain ⟨written, here⟩ := not_or.mp nowhere
      rw [moves_cons_of written here]
      have ends : (moves parts).all (fun part => part = "" || part = ".") =
          parts.all fun part => part = "" || part = "." := by
        rw [Bool.eq_iff_iff]
        simp only [List.all_eq_true, Path.mem_moves, Bool.or_eq_true, decide_eq_true_eq]
        constructor
        · intro none part member
          by_contra leads
          exact leads (none part ⟨member, not_or.mp leads⟩)
        · exact fun none part member => none part member.1
      simp only [makeDirectories, ih, ends]

end Signpost.FileTree
