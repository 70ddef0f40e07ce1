import Signpost.Proofs.Files.Way

/-! A directory keeps its files.

Directories are made where nothing has stood, and a file is written in place of a file. What stands
under one name of a directory is therefore left alone when another name is written, whether the
directory was there before or has been made on the way. -/

namespace Signpost.FileTree

open Signpost.Path (IsName IsPlain Agrees moves steps)

variable {tree tree' : FileTree} {place target : List String} {parts : List String} {node : FileNode}

/-! ## Making directories -/

/-- The second tree is the first one with more directories. -/
structure Grows (tree tree' : FileTree) : Prop where
  mount : tree'.mount = tree.mount
  start : tree'.start = tree.start
  node : ∀ place, tree'.node? place = tree.node? place ∨
    (tree.node? place = none ∧ tree'.node? place = some .directory)

namespace Grows

theorem refl (tree : FileTree) : tree.Grows tree := ⟨rfl, rfl, fun _ => .inl rfl⟩

theorem trans {middle : FileTree} (first : tree.Grows middle) (later : middle.Grows tree') :
    tree.Grows tree' where
  mount := later.mount.trans first.mount
  start := later.start.trans first.start
  node place := by
    rcases later.node place with same | ⟨none, made⟩
    · rcases first.node place with kept | ⟨none, made⟩
      · exact .inl (same.trans kept)
      · exact .inr ⟨none, same.trans made⟩
    · rcases first.node place with kept | ⟨_, already⟩
      · exact .inr ⟨kept.symm.trans none, made⟩
      · rw [already] at none
        cases none

theorem set (absent : tree.node? place = none) : tree.Grows (tree.set place .directory) where
  mount := rfl
  start := rfl
  node other := by
    by_cases same : other = place
    · subst same
      have below : other ≠ [] := by
        rintro rfl
        cases absent
      exact .inr ⟨absent, node?_set_self below⟩
    · exact .inl (node?_set_of_ne same)

theorem spares (grows : tree.Grows tree') : tree.Spares tree' where
  mount := grows.mount
  start := grows.start
  directory place there := by
    rcases grows.node place with same | ⟨none, made⟩
    · rwa [isDirectoryAt, same]
    · rw [isDirectoryAt, made]
      rfl

theorem makeDirectories (made : tree.makeDirectories place parts = .ok tree') : tree.Grows tree' := by
  induction parts generalizing tree place with
  | nil =>
    unfold FileTree.makeDirectories at made
    split at made
    next => exact Except.ok.inj made ▸ refl tree
    next => cases made
  | cons part parts ih =>
    unfold FileTree.makeDirectories at made
    split at made
    next => exact ih made
    next =>
      split at made
      next =>
        split at made
        next => cases made
        next => exact ih made
      next =>
        dsimp only at made
        split at made
        next => exact ih made
        next => cases made
        next absent => exact (set absent).trans (ih made)

theorem createDirectories {path : String} (made : tree.createDirectories path = .ok tree') :
    tree.Grows tree' := by
  unfold FileTree.createDirectories at made
  split at made
  next => cases made
  next => exact makeDirectories made

end Grows

theorem makeDirectories_deeper {names : List String} (named : ∀ name ∈ names, IsName name)
    (made : tree.makeDirectories place names = .ok tree') {other : List String}
    (deeper : place.length + names.length < other.length) : tree'.node? other = tree.node? other := by
  induction names generalizing tree place with
  | nil =>
    unfold makeDirectories at made
    split at made
    next => rw [Except.ok.inj made]
    next => cases made
  | cons name names ih =>
    obtain ⟨written, here, above⟩ := named name List.mem_cons_self
    have later := fun other member => named other (List.mem_cons_of_mem name member)
    have enough : (place ++ [name]).length + names.length < other.length := by
      simp only [List.length_append, List.length_cons, List.length_nil] at deeper ⊢
      omega
    simp only [makeDirectories, written, here, above, decide_false, Bool.or_self, Bool.false_eq_true,
      ↓reduceIte] at made
    split at made
    next => exact ih later made enough
    next => cases made
    next =>
      have different : other ≠ place ++ [name] := by
        rintro rfl
        omega
      rw [ih later made enough, node?_set_of_ne different]

theorem makeDirectories_there {names : List String} (named : ∀ name ∈ names, IsName name)
    (there : tree.isDirectoryAt place = true) (made : tree.makeDirectories place names = .ok tree') :
    tree'.isDirectoryAt (place ++ names) = true := by
  induction names generalizing tree place with
  | nil =>
    rw [makeDirectories, if_pos there] at made
    rwa [List.append_nil, ← Except.ok.inj made]
  | cons name names ih =>
    obtain ⟨written, here, above⟩ := named name List.mem_cons_self
    have later := fun other member => named other (List.mem_cons_of_mem name member)
    simp only [makeDirectories, written, here, above, decide_false, Bool.or_self, Bool.false_eq_true,
      ↓reduceIte] at made
    rw [List.append_cons]
    split at made
    next present => exact ih later (by rw [isDirectoryAt, present]; rfl) made
    next => cases made
    next => exact ih later (by rw [isDirectoryAt, node?_set_self (by simp)]; rfl) made

/-- Nothing is made on a way that leads to a directory. -/
theorem makeDirectories_of_follow (found : tree.follow place parts = some target)
    (there : tree.isDirectoryAt target = true) : tree.makeDirectories place parts = .ok tree := by
  induction parts generalizing place with
  | nil =>
    obtain rfl := Option.some.inj found
    simp [makeDirectories, there]
  | cons part parts ih =>
    unfold follow at found
    unfold makeDirectories
    split at found
    next => cases found
    next =>
      split at found
      next nowhere =>
        rw [if_pos nowhere]
        exact ih found
      next leads =>
        rw [if_neg leads]
        split at found
        next above =>
          rw [if_pos above]
          split at found
          next => cases found
          next deeper =>
            rw [if_neg deeper]
            exact ih found
        next below =>
          have inside := isDirectoryAt_of_follow found there
          have present : tree.node? (place ++ [part]) = some .directory := by
            simpa [isDirectoryAt] using inside
          rw [if_neg below]
          simp only [present]
          exact ih found

/-! ## Paths below the top -/

variable {path directory : String}

theorem partsBelow?_inside (inside : path.startsWith (tree.mount ++ "/") = true) :
    tree.partsBelow? path = some (Path.parts (path.drop (tree.mount.length + 1)).toString) := by
  have longer : path ≠ tree.mount := by
    intro same
    obtain ⟨rest, split⟩ := String.startsWith_string_iff.mp inside
    have lengths := congrArg List.length split
    rw [same] at lengths
    simp only [String.toList_append, List.length_append, String.length_toList] at lengths
    have slash : "/".length = 1 := rfl
    omega
  rw [partsBelow?, if_neg longer, if_pos inside]

section Absolute

variable (absolute : Path.isAbsolute tree.mount = true)

include absolute

theorem mount_ne_empty : tree.mount ≠ "" := by
  intro empty
  rw [empty] at absolute
  cases absolute

theorem isAbsolute_of_inside (inside : path.startsWith (tree.mount ++ "/") = true) :
    Path.isAbsolute path = true := by
  obtain ⟨rest, split⟩ := String.startsWith_string_iff.mp inside
  have whole : path = tree.mount ++ String.ofList ('/' :: rest) :=
    String.toList_inj.mp (by simp [← split])
  rw [whole, Path.isAbsolute_append (mount_ne_empty absolute), absolute]

theorem partsBelow?_relative (relative : Path.isAbsolute path = false) :
    tree.partsBelow? path = some (tree.start ++ Path.parts path) := by
  have elsewhere : path ≠ tree.mount := by
    rintro rfl
    rw [absolute] at relative
    cases relative
  have outside : ¬path.startsWith (tree.mount ++ "/") = true := by
    intro inside
    rw [isAbsolute_of_inside absolute inside] at relative
    cases relative
  rw [partsBelow?, if_neg elsewhere, if_neg outside, if_neg (by simp [relative])]

theorem steps_of_partsBelow? (below : tree.partsBelow? path = some parts) :
    (Path.isAbsolute path = true ∧ steps path = steps tree.mount ++ moves parts) ∨
      (Path.isAbsolute path = false ∧ moves parts = moves tree.start ++ steps path) := by
  by_cases mount : path = tree.mount
  · have top : parts = [] := by simpa [partsBelow?, mount] using below.symm
    subst top mount
    exact .inl ⟨absolute, (List.append_nil _).symm⟩
  · by_cases inside : path.startsWith (tree.mount ++ "/") = true
    · rw [partsBelow?_inside inside] at below
      obtain rfl := Option.some.inj below
      refine .inl ⟨isAbsolute_of_inside absolute inside, ?_⟩
      rw [steps, Path.parts_below inside, Path.moves_append]
      rfl
    · cases relative : Path.isAbsolute path with
      | true =>
        rw [partsBelow?, if_neg mount, if_neg inside, if_pos relative] at below
        cases below
      | false =>
        rw [partsBelow?_relative absolute relative] at below
        obtain rfl := Option.some.inj below
        exact .inr ⟨rfl, Path.moves_append ..⟩

end Absolute

/-! ## Names below one directory -/

theorem follow_names {names : List String} (named : ∀ name ∈ names, IsName name)
    (found : tree.follow place names = some target) : target = place ++ names := by
  induction names generalizing place with
  | nil => exact (Option.some.inj found).symm.trans (List.append_nil place).symm
  | cons name names ih =>
    rw [follow_name (named name List.mem_cons_self)] at found
    split at found
    next =>
      rw [ih (fun other later => named other (List.mem_cons_of_mem name later)) found]
      simp
    next => cases found

/-- The steps of a path alone lead to a file. -/
theorem follow_moves_of_free (found : tree.follow [] parts = some target)
    (free : tree.isDirectoryAt target = false) : tree.follow [] (moves parts) = some target := by
  rcases List.eq_nil_or_concat' parts with rfl | ⟨lead, last, rfl⟩
  · exact found
  · have named : IsName last := by
      by_contra unnamed
      rw [isDirectoryAt_of_unnamed found unnamed] at free
      cases free
    have single : moves [last] = [last] :=
      Path.moves_eq_self fun other member => List.mem_singleton.mp member ▸ named
    rw [Path.moves_append, single, follow_moves_name named, found]

structure Through (directory : String) (names : List String) (path : String) : Prop where
  absolute : Path.isAbsolute path = Path.isAbsolute directory
  leads : steps path = steps directory ++ names
  named : ∀ name ∈ names, IsName name

/-- The top may stand below the directory. Then the paths that are followed share the names down to the
top, and in any case they share what stands before the names that are left. -/
theorem Through.shared (absolute : Path.isAbsolute tree.mount = true) (directory : String) :
    ∃ lead gone : List String, ∀ path names parts, Through directory names path →
      tree.partsBelow? path = some parts →
      ∃ rest, names = gone ++ rest ∧ moves parts = lead ++ rest := by
  refine ⟨if Path.isAbsolute directory then (steps directory).drop (steps tree.mount).length
    else moves tree.start ++ steps directory,
    if Path.isAbsolute directory then (steps tree.mount).drop (steps directory).length else [], ?_⟩
  intro path names parts through below
  rcases steps_of_partsBelow? absolute below with ⟨top, same⟩ | ⟨start, same⟩
  · rw [through.absolute] at top
    rw [through.leads] at same
    rcases List.append_eq_append_iff.mp same with ⟨more, longer, rest⟩ | ⟨more, longer, rest⟩
    · exact ⟨moves parts, by simp [top, longer, rest], by simp [top, longer]⟩
    · exact ⟨names, by simp [top, longer], by simp [top, longer, rest]⟩
  · rw [through.absolute] at start
    exact ⟨names, by simp [start], by simp [start, same, through.leads]⟩

theorem Through.eq_of_locate? {names names' : List String} {path' : String}
    (absolute : Path.isAbsolute tree.mount = true) (through : Through directory names path)
    (through' : Through directory names' path') (located : tree.locate? path = some place)
    (located' : tree.locate? path' = some place) (free : tree.isDirectoryAt place = false) :
    names = names' := by
  obtain ⟨lead, gone, shared⟩ := Through.shared absolute directory
  have leads {path : String} {names : List String} (through : Through directory names path)
      (located : tree.locate? path = some place) :
      ∃ middle rest, names = gone ++ rest ∧ tree.follow [] lead = some middle ∧
        place = middle ++ rest := by
    obtain ⟨parts, below, found⟩ := Option.bind_eq_some_iff.mp located
    obtain ⟨rest, split, same⟩ := shared path names parts through below
    have followed := follow_moves_of_free found free
    rw [same, follow_append] at followed
    obtain ⟨middle, reached, further⟩ := Option.bind_eq_some_iff.mp followed
    have named : ∀ name ∈ rest, IsName name := fun name member =>
      through.named name (split ▸ List.mem_append_right _ member)
    exact ⟨middle, rest, split, reached, follow_names named further⟩
  obtain ⟨middle, rest, rfl, reached, rfl⟩ := leads through located
  obtain ⟨middle', rest', rfl, reached', same⟩ := leads through' located'
  obtain rfl := Option.some.inj (reached.symm.trans reached')
  rw [List.append_cancel_left same]

/-! ## Trees without gaps -/

/-- Whatever is there stands in a directory, and the top has a name of its own. -/
structure Rooted (tree : FileTree) : Prop where
  absolute : Path.isAbsolute tree.mount = true
  trimmed : Path.trimmed tree.mount = tree.mount
  named : tree.mount ≠ "/"
  held : ∀ place name, tree.node? (place ++ [name]) ≠ none → tree.isDirectoryAt place = true

namespace Rooted

theorem above (rooted : tree.Rooted) (there : tree.node? place ≠ none) :
    tree.isDirectoryAt place.dropLast = true := by
  by_cases top : place = []
  · subst top
    rfl
  · refine rooted.held place.dropLast (place.getLast top) ?_
    rwa [List.dropLast_append_getLast]

theorem set (rooted : tree.Rooted) (free : tree.isDirectoryAt place = false)
    (inside : tree.isDirectoryAt place.dropLast = true) : (tree.set place node).Rooted where
  absolute := rooted.absolute
  trimmed := rooted.trimmed
  named := rooted.named
  held other name there := by
    refine (Spares.set free).directory other ?_
    by_cases same : other ++ [name] = place
    · rwa [← same, List.dropLast_concat] at inside
    · rw [node?_set_of_ne same] at there
      exact rooted.held other name there

theorem remove (rooted : tree.Rooted) (free : tree.isDirectoryAt place = false) :
    (tree.remove place).Rooted where
  absolute := rooted.absolute
  trimmed := rooted.trimmed
  named := rooted.named
  held other name there := by
    refine (Spares.remove free).directory other (rooted.held other name fun absent => there ?_)
    by_cases same : other ++ [name] = place
    · rw [node?, if_neg (by simp)]
      exact List.lookup_eq_none_iff.mpr fun entry member => by
        simpa [bne_comm, same] using (List.mem_filter.mp member).2
    · rw [node?_remove_of_ne same, absent]

theorem makeDirectories (rooted : tree.Rooted) (there : tree.isDirectoryAt place = true)
    (made : tree.makeDirectories place parts = .ok tree') : tree'.Rooted := by
  induction parts generalizing tree place with
  | nil =>
    rw [FileTree.makeDirectories, if_pos there] at made
    exact Except.ok.inj made ▸ rooted
  | cons part parts ih =>
    have stands : tree.node? place ≠ none := by
      intro absent
      rw [isDirectoryAt, absent] at there
      cases there
    unfold FileTree.makeDirectories at made
    split at made
    next => exact ih rooted there made
    next =>
      split at made
      next =>
        split at made
        next => cases made
        next => exact ih rooted (rooted.above stands) made
      next =>
        dsimp only at made
        split at made
        next present =>
          refine ih rooted ?_ made
          rw [isDirectoryAt, present]
          rfl
        next => cases made
        next absent =>
          have free : tree.isDirectoryAt (place ++ [part]) = false := by
            rw [isDirectoryAt, absent]
            rfl
          refine ih (rooted.set free (by rwa [List.dropLast_concat])) ?_ made
          rw [isDirectoryAt, node?_set_self (by simp)]
          rfl

theorem follow_directory (rooted : tree.Rooted) {names : List String}
    (named : ∀ name ∈ names, IsName name) (there : tree.isDirectoryAt names = true) :
    tree.follow [] names = some names := by
  induction names using List.reverseRecOn with
  | nil => rfl
  | append_singleton front name ih =>
    have inside : tree.isDirectoryAt front = true := by
      refine rooted.held front name fun absent => ?_
      rw [isDirectoryAt, absent] at there
      cases there
    have before := ih (fun other member => named other (List.mem_append_left _ member)) inside
    rw [follow_append, before, Option.bind_some, follow_name (named name (by simp)), if_pos inside]
    rfl

/-- Without gaps names lead to what stands there, if anything does. -/
theorem follow_bind (rooted : tree.Rooted) {names : List String}
    (named : ∀ name ∈ names, IsName name) {name : String} (last : IsName name) :
    (tree.follow [] (names ++ [name])).bind tree.node? = tree.node? (names ++ [name]) := by
  by_cases there : tree.isDirectoryAt names = true
  · rw [follow_append, rooted.follow_directory named there, Option.bind_some, follow_name last,
      if_pos there]
    rfl
  · have absent : tree.node? (names ++ [name]) = none := by
      by_contra stands
      exact there (rooted.held names name stands)
    rw [absent, follow_append]
    cases found : tree.follow [] names with
    | none => rfl
    | some target =>
      rw [follow_names named found, Option.bind_some, follow_name last, List.nil_append, if_neg there]
      rfl

/-! ### Paths below the top -/

theorem written (rooted : tree.Rooted) : tree.mount ≠ "" := mount_ne_empty rooted.absolute

theorem closed (rooted : tree.Rooted) (front : String) : tree.mount ≠ front ++ "/" := by
  intro ends
  have kept := rooted.trimmed
  by_cases top : front = ""
  · exact rooted.named (by simpa [top] using ends)
  · rw [ends, Path.trimmed_slash top] at kept
    have shorter := (Path.trimmed_prefix front).length_le
    rw [kept, String.toList_append, List.length_append] at shorter
    have slash : "/".toList.length = 1 := rfl
    omega

/-- Paths that agree lead through the same steps below the top. -/
theorem moves_agree (rooted : tree.Rooted) {other : String} (agrees : Agrees path other)
    {others : List String} (below : tree.partsBelow? path = some parts)
    (below' : tree.partsBelow? other = some others) : moves parts = moves others := by
  rcases steps_of_partsBelow? rooted.absolute below with ⟨absolute, same⟩ | ⟨relative, same⟩ <;>
    rcases steps_of_partsBelow? rooted.absolute below' with ⟨absolute', same'⟩ | ⟨relative', same'⟩
  · rw [agrees.steps, same'] at same
    exact (List.append_cancel_left same).symm
  · rw [agrees.absolute, relative'] at absolute
    cases absolute
  · rw [agrees.absolute, absolute'] at relative
    cases relative
  · rw [same, same', agrees.steps]

theorem partsBelow?_trimmed (rooted : tree.Rooted) (below : tree.partsBelow? directory = some parts) :
    ∃ others, tree.partsBelow? (Path.trimmed directory) = some others := by
  by_cases mount : directory = tree.mount
  · exact ⟨parts, by rw [mount, rooted.trimmed, ← mount, below]⟩
  · by_cases inside : directory.startsWith (tree.mount ++ "/") = true
    · rcases Path.trimmed_startsWith rooted.trimmed rooted.written inside with top | further
      · exact ⟨[], by rw [top, partsBelow?, if_pos rfl]⟩
      · exact ⟨_, partsBelow?_inside further⟩
    · rw [partsBelow?, if_neg mount, if_neg inside] at below
      split at below
      next => cases below
      next outside =>
        have relative : Path.isAbsolute directory = false := by simpa using outside
        exact ⟨_, partsBelow?_relative rooted.absolute
          ((Path.isAbsolute_trimmed directory).trans relative)⟩

variable {name : String} (plain : IsPlain name)

include plain

theorem reaches_join (rooted : tree.Rooted) (below : tree.partsBelow? directory = some parts) :
    ∃ others, tree.partsBelow? (Path.join directory name) = some others := by
  have relative := Path.isAbsolute_of_not_mem plain.whole
  have absolute := Path.isAbsolute_join relative directory
  have inside (longer : (Path.join directory name).startsWith (tree.mount ++ "/") = true) :
      ∃ others, tree.partsBelow? (Path.join directory name) = some others :=
    ⟨_, partsBelow?_inside longer⟩
  by_cases mount : directory = tree.mount
  · subst mount
    rcases Path.join_cases relative tree.mount with ⟨empty, -⟩ | ⟨_, ⟨front, ends, -⟩ | joined⟩
    · exact absurd empty rooted.written
    · exact absurd ends (rooted.closed front)
    · refine inside ?_
      rw [joined, String.startsWith_string_iff]
      exact ⟨name.toList, by simp⟩
  · by_cases further : directory.startsWith (tree.mount ++ "/") = true
    · refine inside (String.startsWith_string_iff.mpr ?_)
      refine (String.startsWith_string_iff.mp further).trans ?_
      rcases Path.join_cases relative directory with ⟨rfl, -⟩ | ⟨_, ⟨front, rfl, joined⟩ | joined⟩
      · exact ⟨_, rfl⟩
      · exact ⟨name.toList, by simp [joined]⟩
      · exact ⟨'/' :: name.toList, by simp [joined]⟩
    · rw [partsBelow?, if_neg mount, if_neg further] at below
      split at below
      next => cases below
      next outside =>
        exact ⟨_, partsBelow?_relative rooted.absolute (absolute.trans (by simpa using outside))⟩

theorem partsBelow?_join (rooted : tree.Rooted) (below : tree.partsBelow? directory = some parts) :
    ∃ others, tree.partsBelow? (Path.join directory name) = some others ∧
      moves others = moves parts ++ [name] := by
  have absolute := Path.isAbsolute_join (Path.isAbsolute_of_not_mem plain.whole) directory
  have joined := Path.steps_join_name plain directory
  obtain ⟨others, below'⟩ := reaches_join plain rooted below
  refine ⟨others, below', ?_⟩
  rcases steps_of_partsBelow? rooted.absolute below with ⟨top, same⟩ | ⟨start, same⟩ <;>
    rcases steps_of_partsBelow? rooted.absolute below' with ⟨top', same'⟩ | ⟨start', same'⟩
  · rw [joined, same, List.append_assoc] at same'
    exact (List.append_cancel_left same').symm
  · rw [absolute, top] at start'
    cases start'
  · rw [absolute, start] at top'
    cases top'
  · rw [same', joined, same, List.append_assoc]

end Rooted

/-! ## The place of a directory -/

/-- The files of a directory stand at a place: the directory is there, or the way to it only leads
downwards. -/
structure Houses (tree : FileTree) (directory : String) (place : List String) : Prop where
  rooted : tree.Rooted
  leads : ∃ parts, tree.partsBelow? directory = some parts ∧
    ((place = moves parts ∧ ".." ∉ parts) ∨
      (tree.follow [] parts = some place ∧ tree.isDirectoryAt place = true))

namespace Houses

variable {directory other name : String}

theorem spares (houses : tree.Houses directory place) (rooted : tree'.Rooted)
    (spares : tree.Spares tree') : tree'.Houses directory place where
  rooted := rooted
  leads := by
    obtain ⟨parts, below, down | ⟨found, there⟩⟩ := houses.leads
    · exact ⟨parts, (spares.partsBelow? directory).trans below, .inl down⟩
    · exact ⟨parts, (spares.partsBelow? directory).trans below,
        .inr ⟨spares.follow found, spares.directory place there⟩⟩

theorem names (down : ".." ∉ parts) : ∀ name ∈ moves parts, IsName name := by
  intro name member
  obtain ⟨inside, written, here⟩ := Path.mem_moves.mp member
  exact ⟨written, here, fun above => down (above ▸ inside)⟩

theorem trimmed (houses : tree.Houses directory place) :
    tree.Houses (Path.trimmed directory) place where
  rooted := houses.rooted
  leads := by
    obtain ⟨parts, below, leads⟩ := houses.leads
    obtain ⟨others, below'⟩ := houses.rooted.partsBelow?_trimmed below
    have same := houses.rooted.moves_agree (Path.agrees_trimmed directory) below' below
    refine ⟨others, below', ?_⟩
    rcases leads with ⟨rfl, down⟩ | ⟨found, there⟩
    · refine .inl ⟨same.symm, fun above => ?_⟩
      have step : ".." ∈ moves others := Path.mem_moves.mpr ⟨above, by decide, by decide⟩
      rw [same] at step
      exact down (Path.mem_moves.mp step).1
    · refine .inr ⟨?_, there⟩
      rwa [← follow_moves_iff there, same, follow_moves_iff there]

section Files

variable (houses : tree.Houses directory place) (plain : IsPlain name)

include houses plain

theorem way : ∃ lead, tree.partsBelow? (Path.join directory name) = some (lead ++ [name]) ∧
    ((place = moves lead ∧ ∀ step ∈ moves lead, IsName step) ∨
      (tree.follow [] lead = some place ∧ tree.isDirectoryAt place = true)) := by
  obtain ⟨parts, below, leads⟩ := houses.leads
  obtain ⟨others, below', steps⟩ := houses.rooted.partsBelow?_join plain below
  have ends : others.getLast? = some name := by
    rcases getLast?_of_partsBelow? below' with mount | same
    · have top : others = [] := by simpa [partsBelow?, mount] using below'.symm
      subst top
      simp [moves] at steps
    · obtain ⟨lead, split⟩ := Path.parts_join plain.whole directory
      rw [same, split, List.getLast?_concat]
  obtain ⟨lead, rfl⟩ := List.getLast?_eq_some_iff.mp ends
  have alone : moves [name] = [name] :=
    Path.moves_eq_self fun other member => List.mem_singleton.mp member ▸ plain.toIsName
  have same : moves lead = moves parts := by
    rw [Path.moves_append, alone] at steps
    exact List.append_cancel_right steps
  refine ⟨lead, below', ?_⟩
  rcases leads with ⟨rfl, down⟩ | ⟨found, there⟩
  · exact .inl ⟨same.symm, same ▸ names down⟩
  · refine .inr ⟨?_, there⟩
    rwa [← follow_moves_iff there, same, follow_moves_iff there]

theorem locate? (located : tree.locate? (Path.join directory name) = some target) :
    target = place ++ [name] := by
  obtain ⟨lead, below, leads⟩ := houses.way plain
  rw [FileTree.locate?, below, Option.bind_some, ← follow_moves_name plain.toIsName] at located
  rcases leads with ⟨rfl, down⟩ | ⟨found, there⟩
  · refine (follow_names (fun step member => ?_) located).trans (List.nil_append _)
    rcases List.mem_append.mp member with inside | last
    · exact down step inside
    · exact List.mem_singleton.mp last ▸ plain.toIsName
  · rw [follow_append, (follow_moves_iff there).mpr found, Option.bind_some,
      follow_name plain.toIsName, if_pos there] at located
    exact (Option.some.inj located).symm

theorem lookup? : tree.lookup? (Path.join directory name) = tree.node? (place ++ [name]) := by
  obtain ⟨lead, below, leads⟩ := houses.way plain
  obtain ⟨front, split⟩ := Path.parts_join plain.whole directory
  have named : ((Path.parts (Path.join directory name)).all
      fun part => part = "" || part = "." || part = "..") = false :=
    List.all_eq_false.mpr
      ⟨name, by simp [split], by simp [plain.written, plain.here, plain.above]⟩
  rw [FileTree.lookup?, if_neg (by simp [named]), FileTree.locate?, below, Option.bind_some,
    ← follow_moves_name plain.toIsName]
  rcases leads with ⟨rfl, down⟩ | ⟨found, there⟩
  · exact houses.rooted.follow_bind down plain.toIsName
  · rw [follow_append, (follow_moves_iff there).mpr found, Option.bind_some,
      follow_name plain.toIsName, if_pos there]
    rfl

end Files

/-! ### Writing -/

theorem createDirectories_trimmed (houses : tree.Houses directory place) :
    tree.createDirectories (Path.trimmed directory) = tree.createDirectories directory := by
  obtain ⟨parts, below, -⟩ := houses.leads
  obtain ⟨others, below', -⟩ := houses.trimmed.leads
  have same := houses.rooted.moves_agree (Path.agrees_trimmed directory) below' below
  simp only [FileTree.createDirectories, below, below']
  rw [← makeDirectories_moves, same, makeDirectories_moves]

theorem createDirectories (houses : tree.Houses directory place)
    (made : tree.createDirectories directory = .ok tree') :
    tree'.Rooted ∧ tree.Spares tree' ∧ tree'.isDirectoryAt place = true ∧
      ∀ name, tree'.node? (place ++ [name]) = tree.node? (place ++ [name]) := by
  obtain ⟨parts, below, leads⟩ := houses.leads
  have spares := (Grows.createDirectories made).spares
  simp only [FileTree.createDirectories, below] at made
  refine ⟨houses.rooted.makeDirectories rfl made, spares, ?_⟩
  rcases leads with ⟨rfl, down⟩ | ⟨found, there⟩
  · rw [← makeDirectories_moves] at made
    refine ⟨makeDirectories_there (names down) rfl made, fun name => ?_⟩
    exact makeDirectories_deeper (names down) made (by simp)
  · rw [makeDirectories_of_follow found there] at made
    obtain rfl := Except.ok.inj made
    exact ⟨there, fun _ => rfl⟩

structure Replaces (tree after : FileTree) (place : List String) (name text : String)
    (fault : Option FileFault) : Prop where
  others : ∀ other, other ≠ name → other ≠ name ++ ".tmp" →
    after.node? (place ++ [other]) = tree.node? (place ++ [other])
  written : fault = none → after.node? (place ++ [name]) = some (.file (Text.encode text))
  kept : fault ≠ none → after.node? (place ++ [name]) = tree.node? (place ++ [name])
  beside : tree.isDirectoryAt (place ++ [name ++ ".tmp"]) = false →
    after.isDirectoryAt (place ++ [name ++ ".tmp"]) = false

theorem different {other : String} (unlike : other ≠ name) : place ++ [other] ≠ place ++ [name] :=
  fun same => unlike (List.singleton_inj.mp (List.append_cancel_left same))

theorem apart : name ≠ name ++ ".tmp" := by
  intro same
  have lengths := congrArg String.length same
  have ending : ".tmp".length = 4 := rfl
  rw [String.length_append] at lengths
  omega

theorem of_writeFile {content : Text.Bytes} (houses : tree.Houses directory place)
    (there : tree.isDirectoryAt place = true) (plain : IsPlain name)
    (wrote : tree.writeFile (Path.join directory name) content = .ok tree') :
    tree'.Rooted ∧ tree.Spares tree' ∧ tree' = tree.set (place ++ [name]) (.file content) := by
  obtain ⟨beside, located, free, rfl⟩ := writeFile_eq wrote
  obtain rfl := houses.locate? plain located
  exact ⟨houses.rooted.set free (by rwa [List.dropLast_concat]), .set free, rfl⟩

theorem of_replaceFile {content : Text.Bytes} (houses : tree.Houses directory place)
    (there : tree.isDirectoryAt place = true) (plain : IsPlain name)
    (stored : tree.node? (place ++ [name ++ ".tmp"]) = some (.file content))
    (replaced : tree.replaceFile (Path.join (Path.trimmed directory) (name ++ ".tmp"))
      (Path.join directory name) = .ok tree') :
    tree'.Houses directory place ∧ tree'.node? (place ++ [name]) = some (.file content) ∧
      tree'.isDirectoryAt (place ++ [name ++ ".tmp"]) = false ∧
      ∀ other, other ≠ name → other ≠ name ++ ".tmp" →
        tree'.node? (place ++ [other]) = tree.node? (place ++ [other]) := by
  obtain ⟨origin, goal, moved, from?, to?, found, free, -, rfl⟩ := replaceFile_eq replaced
  obtain rfl := houses.trimmed.locate? plain.temporary from?
  obtain rfl := houses.locate? plain to?
  obtain rfl := FileNode.file.inj (Option.some.inj (stored.symm.trans found))
  have gone := isDirectoryAt_of_file stored
  have clear : (tree.remove (place ++ [name ++ ".tmp"])).isDirectoryAt (place ++ [name]) = false :=
    isDirectoryAt_remove free
  have spared := Spares.remove gone
  have removed := houses.rooted.remove gone
  have rooted' : (FileTree.set _ _ (.file content)).Rooted := removed.set clear (by
    rw [List.dropLast_concat]
    exact spared.directory place there)
  refine ⟨(houses.spares removed spared).spares rooted' (Spares.set clear),
    node?_set_self (by simp), ?_, fun other unlike away => ?_⟩
  · rw [isDirectoryAt, node?_set_of_ne (different apart.symm)]
    exact isDirectoryAt_remove gone
  · rw [node?_set_of_ne (different unlike), node?_remove_of_ne (different away)]

theorem writeAtomic (houses : tree.Houses directory place) (plain : IsPlain name) {text : String}
    {fault : Option FileFault} {after : FileTree}
    (attempted : tree.writeAtomic (Path.join directory name) text = (fault, after)) :
    after.Houses directory place ∧ Replaces tree after place name text fault := by
  simp only [FileTree.writeAtomic, Path.parent?_join plain, Option.getD_some,
    Path.temporary_join plain] at attempted
  split at attempted
  next =>
    cases attempted
    exact ⟨houses, fun _ _ _ => rfl, fun done => absurd done (Option.some_ne_none _), fun _ => rfl, id⟩
  next made created =>
    obtain ⟨rooted, spares, there, same⟩ := houses.trimmed.createDirectories created
    replace houses := houses.spares rooted spares
    split at attempted
    next =>
      cases attempted
      refine ⟨houses, fun other _ _ => same other, fun done => absurd done (Option.some_ne_none _),
        fun _ => same name, fun clear => ?_⟩
      rwa [isDirectoryAt, same]
    next prepared wrote =>
      obtain ⟨rooted', spares', rfl⟩ := houses.trimmed.of_writeFile there plain.temporary wrote
      replace houses := houses.spares rooted' spares'
      have stored : (made.set (place ++ [name ++ ".tmp"]) (.file (Text.encode text))).node?
          (place ++ [name ++ ".tmp"]) = some (.file (Text.encode text)) := node?_set_self (by simp)
      have same' {other : String} (unlike : other ≠ name ++ ".tmp") :
          (made.set (place ++ [name ++ ".tmp"]) (.file (Text.encode text))).node? (place ++ [other]) =
            tree.node? (place ++ [other]) :=
        (node?_set_of_ne (different unlike)).trans (same other)
      split at attempted
      next =>
        cases attempted
        exact ⟨houses, fun other _ unlike => same' unlike,
          fun done => absurd done (Option.some_ne_none _), fun _ => same' apart,
          fun _ => isDirectoryAt_of_file stored⟩
      next replaced =>
        cases attempted
        obtain ⟨houses', written, gone, others⟩ :=
          houses.of_replaceFile (spares'.directory place there) plain stored replaced
        exact ⟨houses', fun other unlike away => (others other unlike away).trans (same' away),
          fun _ => written, fun failed => absurd rfl failed, fun _ => gone⟩

/-! ### Nothing in the way -/

section There

variable (houses : tree.Houses directory place) (there : tree.isDirectoryAt place = true)

include houses there

theorem follows : ∃ parts, tree.partsBelow? directory = some parts ∧
    tree.follow [] parts = some place := by
  obtain ⟨parts, below, ⟨rfl, down⟩ | ⟨found, -⟩⟩ := houses.leads
  · refine ⟨parts, below, ?_⟩
    rw [← follow_moves_iff there]
    exact houses.rooted.follow_directory (names down) there
  · exact ⟨parts, below, found⟩

theorem createDirectories_there : tree.createDirectories directory = .ok tree := by
  obtain ⟨parts, below, followed⟩ := houses.follows there
  simp only [FileTree.createDirectories, below]
  exact makeDirectories_of_follow followed there

theorem way_there (plain : IsPlain name) : ∃ lead,
    tree.partsBelow? (Path.join directory name) = some (lead ++ [name]) ∧
      tree.follow [] lead = some place := by
  obtain ⟨lead, below, ⟨rfl, down⟩ | ⟨found, -⟩⟩ := houses.way plain
  · refine ⟨lead, below, ?_⟩
    rw [← follow_moves_iff there]
    exact houses.rooted.follow_directory down there
  · exact ⟨lead, below, found⟩

theorem locates (plain : IsPlain name) :
    tree.locate? (Path.join directory name) = some (place ++ [name]) := by
  obtain ⟨lead, below, followed⟩ := houses.way_there there plain
  rw [FileTree.locate?, below, Option.bind_some, follow_append, followed, Option.bind_some,
    follow_name plain.toIsName, if_pos there]
  rfl

theorem writeFile_ok (plain : IsPlain name) (free : tree.isDirectoryAt (place ++ [name]) = false)
    (content : Text.Bytes) : tree.writeFile (Path.join directory name) content =
      .ok (tree.set (place ++ [name]) (.file content)) := by
  simp only [writeFile, houses.locates there plain, free, Bool.false_eq_true, ↓reduceIte,
    List.dropLast_concat, there]

end There

theorem obstacle?_eq_none {lead : List String} (found : tree.follow target lead = some place)
    (there : tree.isDirectoryAt place = true) (name : String) :
    tree.obstacle? target (lead ++ [name]) = none := by
  induction lead generalizing target with
  | nil =>
    obtain rfl := Option.some.inj found
    simp [obstacle?, there]
  | cons part lead ih =>
    obtain ⟨next, rest, more⟩ := List.exists_cons_of_ne_nil
      (show lead ++ [name] ≠ [] by simp)
    unfold follow at found
    rw [List.cons_append, more, obstacle?, ← more]
    · split at found
      next => cases found
      next =>
        split at found
        next nowhere =>
          rw [if_pos nowhere]
          exact ih found
        next leads =>
          rw [if_neg leads]
          split at found
          next above =>
            rw [if_pos above]
            split at found
            next => cases found
            next => exact ih found
          next below =>
            have present : tree.node? (target ++ [part]) = some .directory := by
              simpa [isDirectoryAt] using isDirectoryAt_of_follow found there
            rw [if_neg below]
            simp only [present]
            exact ih found
    · simp

theorem refusal?_eq_none {lead : List String} (found : tree.follow [] lead = some place)
    (there : tree.isDirectoryAt place = true) (named : IsName name) :
    tree.refusal? (lead ++ [name]) = none := by
  have whole : ((lead ++ [name]).reverse.dropWhile (· == "")).reverse = lead ++ [name] := by
    simp [named.written]
  simp only [refusal?, whole, obstacle?_eq_none found there, List.getLast?_concat, Option.any_some,
    beq_false_of_ne named.here, beq_false_of_ne named.above, Bool.or_self, Bool.false_eq_true,
    ↓reduceIte, Nat.lt_irrefl]

theorem replaceFile_ok (houses : tree.Houses directory place) (plain : IsPlain name)
    (there : tree.isDirectoryAt place = true) {content : Text.Bytes}
    (stored : tree.node? (place ++ [name ++ ".tmp"]) = some (.file content))
    (free : tree.isDirectoryAt (place ++ [name]) = false) : ∃ after,
      tree.replaceFile (Path.join (Path.trimmed directory) (name ++ ".tmp"))
        (Path.join directory name) = .ok after ∧ after.isDirectoryAt place = true := by
  obtain ⟨lead, below, followed⟩ := houses.way_there there plain
  have allowed : (tree.partsBelow? (Path.join directory name)).bind tree.refusal? = none := by
    rw [below, Option.bind_some, refusal?_eq_none followed there plain.toIsName]
  have gone := Spares.remove (isDirectoryAt_of_file stored)
  have clear : (tree.remove (place ++ [name ++ ".tmp"])).isDirectoryAt (place ++ [name]) = false :=
    isDirectoryAt_remove free
  have kept : Spares _ (FileTree.set _ _ (.file content)) := .set clear
  refine ⟨_, ?_, kept.directory place (gone.directory place there)⟩
  simp only [replaceFile, allowed, houses.trimmed.locates there plain.temporary,
    houses.locates there plain, stored, free, Bool.false_eq_true, ↓reduceIte]

theorem writeAtomic_ok (houses : tree.Houses directory place) (plain : IsPlain name)
    (creatable : ∃ made, tree.createDirectories directory = .ok made)
    (clear : tree.isDirectoryAt (place ++ [name ++ ".tmp"]) = false)
    (free : tree.isDirectoryAt (place ++ [name]) = false) (text : String) :
    ∃ after, tree.writeAtomic (Path.join directory name) text = (none, after) ∧
      after.isDirectoryAt place = true := by
  obtain ⟨made, created⟩ := creatable
  rw [← houses.createDirectories_trimmed] at created
  obtain ⟨rooted, spares, there, same⟩ := houses.trimmed.createDirectories created
  replace houses := houses.spares rooted spares
  have absent {other : String} (before : tree.isDirectoryAt (place ++ [other]) = false) :
      made.isDirectoryAt (place ++ [other]) = false := by rwa [isDirectoryAt, same]
  have wrote := houses.trimmed.writeFile_ok there plain.temporary (absent clear) (Text.encode text)
  have spares' : made.Spares (made.set _ (.file (Text.encode text))) := .set (absent clear)
  have rooted' : (made.set _ (.file (Text.encode text))).Rooted :=
    rooted.set (absent clear) (by rwa [List.dropLast_concat])
  have stored : (made.set (place ++ [name ++ ".tmp"]) (.file (Text.encode text))).node?
      (place ++ [name ++ ".tmp"]) = some (.file (Text.encode text)) := node?_set_self (by simp)
  have free' : (made.set (place ++ [name ++ ".tmp"]) (.file (Text.encode text))).isDirectoryAt
      (place ++ [name]) = false := by
    rw [isDirectoryAt, node?_set_of_ne (different apart)]
    exact absent free
  obtain ⟨after, replaced, kept⟩ := (houses.spares rooted' spares').replaceFile_ok plain
    (spares'.directory place there) stored free'
  refine ⟨after, ?_, kept⟩
  simp only [FileTree.writeAtomic, Path.parent?_join plain, Option.getD_some,
    Path.temporary_join plain, created, wrote, replaced]

end Houses

end Signpost.FileTree
