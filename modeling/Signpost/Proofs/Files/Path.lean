import Signpost.Files.Path
import Signpost.Proofs.Text.Split

/-! What a path leads through.

Empty parts and single points lead nowhere; the other parts are the steps of a path. Joining puts the
steps of one path behind those of another, and a path names something below a directory when names
alone follow the steps of the directory. -/

namespace Signpost.Path

def moves (parts : List String) : List String :=
  parts.filter fun part => part != "" && part != "."

def steps (path : String) : List String := moves (parts path)

/-- A part that is neither empty nor a step. -/
structure IsName (name : String) : Prop where
  written : name ≠ ""
  here : name ≠ "."
  above : name ≠ ".."

structure Agrees (path other : String) : Prop where
  steps : steps path = steps other
  absolute : isAbsolute path = isAbsolute other

structure Below (directory path : String) : Prop where
  absolute : isAbsolute path = isAbsolute directory
  names : ∃ names, names ≠ [] ∧ steps path = steps directory ++ names ∧ ∀ name ∈ names, IsName name

/-! ## Parts -/

theorem parts_ne_nil (path : String) : parts path ≠ [] := by
  simpa [parts] using Text.fields_ne_nil path.toList

theorem parts_slash (directory path : String) :
    parts (directory ++ "/" ++ path) = parts directory ++ parts path := by
  have whole : (directory ++ "/" ++ path).toList = directory.toList ++ '/' :: path.toList := by simp
  rw [parts, whole, Text.fields_append, List.map_append]
  rfl

theorem parts_of_not_mem {name : String} (plain : '/' ∉ name.toList) : parts name = [name] := by
  have whole : Text.fields '/' name.toList = [name.toList] := Text.fields_of_not_mem plain
  rw [parts, whole, List.map_singleton, String.ofList_toList]

theorem not_mem_of_mem_parts {path part : String} (member : part ∈ parts path) :
    '/' ∉ part.toList := by
  obtain ⟨piece, cut, rfl⟩ := List.mem_map.mp member
  simpa using Text.not_mem_of_mem_fields cut

theorem moves_append (parts others : List String) :
    moves (parts ++ others) = moves parts ++ moves others := List.filter_append ..

theorem mem_moves {part : String} {parts : List String} :
    part ∈ moves parts ↔ part ∈ parts ∧ part ≠ "" ∧ part ≠ "." := by
  simp [moves]

theorem moves_eq_self {names : List String} (named : ∀ name ∈ names, IsName name) :
    moves names = names :=
  List.filter_eq_self.mpr fun name member => by
    simp [(named name member).written, (named name member).here]

theorem steps_empty : steps "" = [] := by
  simp [steps, moves, parts, Text.fields]

theorem steps_slash (directory path : String) :
    steps (directory ++ "/" ++ path) = steps directory ++ steps path := by
  rw [steps, parts_slash, moves_append]
  rfl

theorem steps_of_isName {name : String} (named : IsName name) (plain : '/' ∉ name.toList) :
    steps name = [name] := by
  rw [steps, parts_of_not_mem plain]
  exact moves_eq_self fun other member => List.mem_singleton.mp member ▸ named

/-! ## Joining -/

theorem isAbsolute_iff {path : String} :
    isAbsolute path = true ↔ ∃ rest, path.toList = '/' :: rest := by
  rw [isAbsolute, String.startsWith_string_iff]
  constructor
  · rintro ⟨rest, split⟩
    exact ⟨rest, split.symm⟩
  · rintro ⟨rest, split⟩
    exact ⟨rest, split.symm⟩

theorem isAbsolute_of_not_mem {name : String} (plain : '/' ∉ name.toList) :
    isAbsolute name = false := by
  rw [Bool.eq_false_iff]
  intro absolute
  obtain ⟨rest, split⟩ := isAbsolute_iff.mp absolute
  exact plain (by simp [split])

theorem isAbsolute_append {directory : String} (written : directory ≠ "") (path : String) :
    isAbsolute (directory ++ path) = isAbsolute directory := by
  obtain ⟨c, rest, split⟩ := List.exists_cons_of_ne_nil
    (show directory.toList ≠ [] by simpa using written)
  have same : isAbsolute (directory ++ path) = true ↔ isAbsolute directory = true := by
    simp [isAbsolute_iff, split]
  exact Bool.eq_iff_iff.mpr same

/-- How a path stands behind a directory: alone, behind a slash that is there, or behind a new one. -/
theorem join_cases {path : String} (relative : isAbsolute path = false) (directory : String) :
    (directory = "" ∧ join directory path = path) ∨
      (directory ≠ "" ∧ ((∃ front, directory = front ++ "/" ∧ join directory path = front ++ "/" ++ path) ∨
        join directory path = directory ++ "/" ++ path)) := by
  unfold join
  by_cases empty : directory = ""
  · exact .inl ⟨empty, by simp [empty]⟩
  · refine .inr ⟨empty, ?_⟩
    have entered : ¬((isAbsolute path || directory.isEmpty) = true) := by simp [relative, empty]
    rw [if_neg entered]
    split
    next ends =>
      rw [String.endsWith_eq_endsWith_toSlice, String.Slice.endsWith_string_iff] at ends
      obtain ⟨front, split⟩ := ends
      refine .inl ⟨String.ofList front, ?_, ?_⟩
      · exact String.toList_inj.mp (by simpa using split.symm)
      · exact String.toList_inj.mp (by simp [← show _ = directory.toList by simpa using split])
    next => exact .inr rfl

theorem steps_join {path : String} (relative : isAbsolute path = false) (directory : String) :
    steps (join directory path) = steps directory ++ steps path := by
  rcases join_cases relative directory with
    ⟨rfl, alone⟩ | ⟨_, ⟨front, rfl, joined⟩ | joined⟩
  · rw [alone, steps_empty, List.nil_append]
  · have lead : steps (front ++ "/") = steps front := by
      simpa [steps_empty] using steps_slash front ""
    rw [joined, steps_slash, lead]
  · rw [joined, steps_slash]

theorem isAbsolute_join {path : String} (relative : isAbsolute path = false) (directory : String) :
    isAbsolute (join directory path) = isAbsolute directory := by
  rcases join_cases relative directory with
    ⟨rfl, alone⟩ | ⟨written, ⟨front, rfl, joined⟩ | joined⟩
  · rw [alone, relative]
    rfl
  · rw [joined, isAbsolute_append written]
  · rw [joined, String.append_assoc, isAbsolute_append written]

/-! ## Names at the end -/

structure IsPlain (name : String) : Prop extends IsName name where
  whole : '/' ∉ name.toList

theorem isName_of_length {name : String} (long : 2 < name.length) : IsName name where
  written := by
    rintro rfl
    exact absurd long (by decide)
  here := by
    rintro rfl
    exact absurd long (by decide)
  above := by
    rintro rfl
    exact absurd long (by decide)

theorem isPlain_append {name ending : String} (whole : '/' ∉ name.toList)
    (whole' : '/' ∉ ending.toList) (long : 2 < ending.length) : IsPlain (name ++ ending) where
  toIsName := isName_of_length (by
    rw [String.length_append]
    omega)
  whole := by simp [whole, whole']

theorem IsPlain.append {name ending : String} (plain : IsPlain name) (whole : '/' ∉ ending.toList)
    (long : 2 < ending.length) : IsPlain (name ++ ending) := isPlain_append plain.whole whole long

theorem trimEnd_suffix (path : List Char) : trimEnd path <:+ path := by
  fun_induction trimEnd path with
  | case1 => exact List.suffix_rfl
  | case2 before _ ih => exact ih.trans (List.suffix_cons ..)
  | case3 before ih => exact ih.trans (List.suffix_cons ..)
  | case4 => exact List.suffix_rfl

theorem trimEnd_ne_nil {path : List Char} (written : path ≠ []) : trimEnd path ≠ [] := by
  fun_induction trimEnd path with
  | case1 => exact written
  | case2 before more ih => exact ih more
  | case3 before ih => exact ih nofun
  | case4 => exact written

theorem trimmed_ne_empty {path : String} (written : path ≠ "") : trimmed path ≠ "" := by
  have there : path.toList.reverse ≠ [] := by simpa using written
  simpa [trimmed] using trimEnd_ne_nil there

theorem trimmed_prefix (path : String) : (trimmed path).toList <+: path.toList := by
  have front := List.reverse_prefix.mpr (trimEnd_suffix path.toList.reverse)
  simpa [trimmed] using front

theorem isAbsolute_trimmed (path : String) : isAbsolute (trimmed path) = isAbsolute path := by
  by_cases empty : path = ""
  · subst empty
    rfl
  · obtain ⟨rest, split⟩ := trimmed_prefix path
    have whole : trimmed path ++ String.ofList rest = path :=
      String.toList_inj.mp (by simpa using split)
    rw [← isAbsolute_append (trimmed_ne_empty empty) (String.ofList rest), whole]

theorem steps_trimEnd (path : List Char) :
    steps (String.ofList (trimEnd path).reverse) = steps (String.ofList path.reverse) := by
  have cut (before : List Char) (last : String) (nowhere : steps last = []) :
      steps (String.ofList before.reverse ++ "/" ++ last) = steps (String.ofList before.reverse) := by
    rw [steps_slash, nowhere, List.append_nil]
  fun_induction trimEnd path with
  | case1 => rfl
  | case2 before _ ih =>
    have whole : String.ofList ('/' :: before).reverse = String.ofList before.reverse ++ "/" ++ "" :=
      String.toList_inj.mp (by simp)
    rw [ih, whole, cut before "" steps_empty]
  | case3 before ih =>
    have slash : String.ofList ('/' :: before).reverse = String.ofList before.reverse ++ "/" ++ "" :=
      String.toList_inj.mp (by simp)
    have point : String.ofList ('.' :: '/' :: before).reverse =
        String.ofList before.reverse ++ "/" ++ "." := String.toList_inj.mp (by simp)
    rw [ih, slash, cut before "" steps_empty, point, cut before "." (by decide)]
  | case4 => rfl

theorem trimmed_slash {front : String} (written : front ≠ "") :
    trimmed (front ++ "/") = trimmed front := by
  have reversed : (front ++ "/").toList.reverse = '/' :: front.toList.reverse := by simp
  have more : front.toList.reverse ≠ [] := by simpa using written
  rw [trimmed, reversed, trimEnd, trimmed]
  exact more

theorem steps_trimmed (path : String) : steps (trimmed path) = steps path := by
  have reversed := steps_trimEnd path.toList.reverse
  rwa [List.reverse_reverse, String.ofList_toList] at reversed

theorem trimEnd_behind {stop : List Char} (kept : trimEnd stop = stop) (more : stop ≠ [])
    (path : List Char) : trimEnd (path ++ '/' :: stop) = stop ∨
      ∃ front, trimEnd (path ++ '/' :: stop) = front ++ '/' :: stop := by
  induction path with
  | nil =>
    refine .inl ?_
    rw [List.nil_append, trimEnd, kept]
    exact more
  | cons c path ih =>
    unfold trimEnd
    split
    next short => simp at short
    next same =>
      rw [← (List.cons.inj same).2]
      exact ih
    next same =>
      rw [← (List.cons.inj same).2]
      exact ih
    next => exact .inr ⟨c :: path, rfl⟩

/-- What stands below a trimmed path still does, or is the path itself, once it is trimmed too. -/
theorem trimmed_startsWith {path top : String} (kept : trimmed top = top) (written : top ≠ "")
    (inside : path.startsWith (top ++ "/") = true) :
    trimmed path = top ∨ (trimmed path).startsWith (top ++ "/") = true := by
  obtain ⟨rest, split⟩ := String.startsWith_string_iff.mp inside
  have reversed : path.toList.reverse = rest.reverse ++ '/' :: top.toList.reverse := by
    simp [← split]
  have stop : trimEnd top.toList.reverse = top.toList.reverse := by
    have both := congrArg (fun text => text.toList.reverse) kept
    simpa [trimmed] using both
  have more : top.toList.reverse ≠ [] := by simpa using written
  rcases trimEnd_behind stop more rest.reverse with same | ⟨front, same⟩
  · exact .inl (String.toList_inj.mp (by simp [trimmed, reversed, same]))
  · refine .inr (String.startsWith_string_iff.mpr ⟨front.reverse, ?_⟩)
    simp [trimmed, reversed, same]

theorem agrees_trimmed (path : String) : Agrees (trimmed path) path :=
  ⟨steps_trimmed path, isAbsolute_trimmed path⟩

theorem getLast?_parts_join {path : String} (relative : isAbsolute path = false)
    (directory : String) : (parts (join directory path)).getLast? = (parts path).getLast? := by
  rcases join_cases relative directory with
    ⟨rfl, joined⟩ | ⟨_, ⟨front, rfl, joined⟩ | joined⟩
  · rw [joined]
  · rw [joined, parts_slash, List.getLast?_append_of_ne_nil _ (parts_ne_nil path)]
  · rw [joined, parts_slash, List.getLast?_append_of_ne_nil _ (parts_ne_nil path)]

theorem parts_join {name : String} (whole : '/' ∉ name.toList) (directory : String) :
    ∃ lead, parts (join directory name) = lead ++ [name] := by
  have alone := parts_of_not_mem whole
  rcases join_cases (isAbsolute_of_not_mem whole) directory with
    ⟨rfl, joined⟩ | ⟨_, ⟨front, rfl, joined⟩ | joined⟩
  · exact ⟨[], by rw [joined, alone]; rfl⟩
  · exact ⟨parts front, by rw [joined, parts_slash, alone]⟩
  · exact ⟨parts directory, by rw [joined, parts_slash, alone]⟩

section Ends

variable {name : String} (plain : IsPlain name)

include plain

theorem trimmed_append (front : String) : trimmed (front ++ name) = front ++ name := by
  have kept : trimEnd (name.toList.reverse ++ front.toList.reverse) =
      name.toList.reverse ++ front.toList.reverse := by
    obtain ⟨c, rest, split⟩ := List.exists_cons_of_ne_nil
      (show name.toList.reverse ≠ [] by simpa using plain.written)
    have inside : ∀ d ∈ c :: rest, d ≠ '/' := by
      rintro d member rfl
      exact plain.whole (by simpa [← split] using member)
    rw [split]
    unfold trimEnd
    split
    next same => exact absurd (List.cons.inj same).1 (inside c List.mem_cons_self)
    next same => exact absurd (List.cons.inj same).1 (inside c List.mem_cons_self)
    next before same =>
      obtain ⟨rfl, later⟩ := List.cons.inj same
      cases rest with
      | nil =>
        have alone : name = "." := String.toList_inj.mp (by simpa using congrArg List.reverse split)
        exact absurd alone plain.here
      | cons d rest => exact absurd (List.cons.inj later).1 (inside d (by simp))
    next => rfl
  have reversed := congrArg List.reverse kept
  rw [trimmed, String.toList_append, List.reverse_append]
  exact String.toList_inj.mp (by simpa using reversed)

theorem parent?_slash (front : String) :
    parent? (front ++ "/" ++ name) = some (if front = "" then "/" else trimmed front) := by
  have whole : (front ++ "/" ++ name).toList = front.toList ++ '/' :: name.toList := by simp
  have written : front ++ "/" ++ name ≠ "" := fun empty => by simpa using congrArg String.toList empty
  have below : front ++ "/" ++ name ≠ "/" := by
    intro top
    have alone := congrArg String.length top
    have more : name.length ≠ 0 := fun none => plain.written (String.length_eq_zero_iff.mp none)
    rw [String.length_append, String.length_append] at alone
    omega
  simp only [parent?, trimmed_append plain, whole, Text.cutLast_append plain.whole]
  rw [if_neg (by simp [written, below])]
  by_cases top : front = ""
  · simp [top]
  · have more : front.toList ≠ [] := by simpa using top
    rw [if_neg top]
    split
    next same => exact absurd (Prod.mk.inj (Option.some.inj same)).1 more
    next same =>
      obtain ⟨rfl, -⟩ := Prod.mk.inj (Option.some.inj same)
      rw [String.ofList_toList]
    next none => cases none

theorem parent?_name : parent? name = some "" := by
  have kept : trimmed name = name := by simpa using trimmed_append plain ""
  have below : name ≠ "/" := by
    rintro rfl
    exact plain.whole (by decide)
  simp only [parent?, kept, Text.cutLast_eq_none_iff.mpr plain.whole]
  rw [if_neg (by simp [plain.written, below])]

/-- A file of a directory is held by the directory, written without what leads nowhere. -/
theorem parent?_join (directory : String) :
    parent? (join directory name) = some (trimmed directory) := by
  rcases join_cases (isAbsolute_of_not_mem plain.whole) directory with
    ⟨rfl, alone⟩ | ⟨written, ⟨front, rfl, joined⟩ | joined⟩
  · rw [alone, parent?_name plain]
    rfl
  · rw [joined, parent?_slash plain]
    by_cases top : front = ""
    · subst top
      rfl
    · rw [if_neg top, trimmed_slash top]
  · rw [joined, parent?_slash plain, if_neg written]

theorem trimmed_join (directory : String) : trimmed (join directory name) = join directory name := by
  rcases join_cases (isAbsolute_of_not_mem plain.whole) directory with
    ⟨rfl, joined⟩ | ⟨_, ⟨front, rfl, joined⟩ | joined⟩
  · rw [joined]
    simpa using trimmed_append plain ""
  · rw [joined, trimmed_append plain]
  · rw [joined, trimmed_append plain]

theorem name?_join (directory : String) : name? (join directory name) = some name := by
  obtain ⟨lead, split⟩ := parts_join plain.whole directory
  simp [name?, trimmed_join plain, split, plain.written, plain.here, plain.above]

theorem temporary_join (directory : String) :
    temporary (join directory name) = join (trimmed directory) (name ++ ".tmp") := by
  unfold temporary
  delta withName
  rw [name?_join plain, parent?_join plain]
  rfl

theorem IsPlain.temporary : IsPlain (name ++ ".tmp") := plain.append (by decide) (by decide)

theorem steps_join_name (directory : String) :
    steps (join directory name) = steps directory ++ [name] := by
  rw [steps_join (isAbsolute_of_not_mem plain.whole), steps_of_isName plain.toIsName plain.whole]

/-! ## Staying below -/

theorem below_join_name (directory : String) : Below directory (join directory name) where
  absolute := isAbsolute_join (isAbsolute_of_not_mem plain.whole) directory
  names := ⟨[name], by simp, steps_join_name plain directory,
    fun other member => List.mem_singleton.mp member ▸ plain.toIsName⟩

theorem below_temporary (directory : String) :
    Below directory (temporary (join directory name)) := by
  obtain ⟨absolute, names⟩ := below_join_name plain.temporary (trimmed directory)
  rw [temporary_join plain]
  exact ⟨absolute.trans (isAbsolute_trimmed directory), steps_trimmed directory ▸ names⟩

end Ends

/-- A relative path that does not go up stays below a directory unless it has no steps. -/
theorem below_join {path : String} (relative : isAbsolute path = false) (inside : ".." ∉ parts path)
    (leads : steps path ≠ []) (directory : String) : Below directory (join directory path) where
  absolute := isAbsolute_join relative directory
  names := by
    refine ⟨steps path, leads, steps_join relative directory, fun name member => ?_⟩
    obtain ⟨there, written, here⟩ := mem_moves.mp member
    exact ⟨written, here, fun above => inside (above ▸ there)⟩

theorem Below.trans {directory middle path : String} (below : Below middle path)
    (names : ∃ names, steps middle = steps directory ++ names ∧ ∀ name ∈ names, IsName name)
    (absolute : isAbsolute middle = isAbsolute directory) : Below directory path where
  absolute := below.absolute.trans absolute
  names := by
    obtain ⟨first, lead, named⟩ := names
    obtain ⟨later, more, ends, others⟩ := below.names
    refine ⟨first ++ later, by simp [more], by rw [ends, lead, List.append_assoc], ?_⟩
    intro name member
    exact (List.mem_append.mp member).elim (named name) (others name)

theorem steps_foldl_join {segments : List String} (plain : ∀ segment ∈ segments, IsPlain segment)
    (directory : String) : steps (segments.foldl join directory) = steps directory ++ segments ∧
      isAbsolute (segments.foldl join directory) = isAbsolute directory := by
  induction segments generalizing directory with
  | nil => exact ⟨(List.append_nil _).symm, rfl⟩
  | cons segment segments ih =>
    have here := plain segment List.mem_cons_self
    obtain ⟨lead, absolute⟩ := ih (fun other later => plain other (List.mem_cons_of_mem _ later))
      (join directory segment)
    constructor
    · rw [List.foldl_cons, lead, steps_join_name here, List.append_assoc, List.singleton_append]
    · rw [List.foldl_cons, absolute, isAbsolute_join (isAbsolute_of_not_mem here.whole)]

/-! ## Extensions -/

/-- A file name up to its last point, unless the point comes first. -/
def stem (name : String) : String :=
  match Text.cutLast '.' name.toList with
  | some (c :: before, _) => String.ofList (c :: before)
  | _ => name

theorem stem_prefix_self (name : String) : (stem name).toList <+: name.toList := by
  unfold stem
  split
  next cut =>
    obtain ⟨split, -⟩ := Text.of_cutLast cut
    rw [String.toList_ofList, split]
    exact List.prefix_append ..
  next => exact List.prefix_rfl

theorem stem_eq_self_iff {name : String} : stem name = name ↔ '.' ∉ name.toList.tail := by
  unfold stem
  split
  next c before after cut =>
    obtain ⟨split, -⟩ := Text.of_cutLast cut
    constructor
    · intro same
      have lengths := congrArg List.length (String.toList_inj.mpr same)
      simp only [String.toList_ofList, split, List.cons_append, List.length_cons,
        List.length_append] at lengths
      omega
    · intro absent
      rw [split] at absent
      exact absurd (List.mem_append_right before List.mem_cons_self) absent
  next whole =>
    apply iff_of_true rfl
    cases cut : Text.cutLast '.' name.toList with
    | none => exact fun later => Text.cutLast_eq_none_iff.mp cut (List.mem_of_mem_tail later)
    | some sides =>
      obtain ⟨before, after⟩ := sides
      obtain ⟨split, absent⟩ := Text.of_cutLast cut
      cases before with
      | nil =>
        rw [split]
        exact absent
      | cons c before => exact absurd cut (whole c before after)

/-- Another extension follows the stem, unless a step is what is left of it. -/
theorem withExtension_eq {name : String} (here : name ≠ ".") (extension : String) :
    withExtension name extension =
      if stem name = "." then ".." else stem name ++ "." ++ extension := by
  unfold withExtension stem
  split
  next cut =>
    rw [cut]
    rfl
  next c before after point cut =>
    have more : String.ofList (c :: before) ≠ "." := by
      intro alone
      have single : c :: before = ['.'] := by simpa using congrArg String.toList alone
      exact point (List.cons.inj single).1 (List.cons.inj single).2
    rw [cut]
    exact (if_neg more).symm
  next point whole =>
    split
    next c before after cut => exact absurd cut (whole c before after)
    next => exact (if_neg here).symm

/-- A name takes another extension and stays a name, unless the step upwards is what is left of it. -/
theorem withExtension_cases {name extension : String} (plain : IsPlain name)
    (whole : '/' ∉ extension.toList) (long : 1 < extension.length) :
    withExtension name extension = ".." ∨ IsPlain (withExtension name extension) := by
  have front : '/' ∉ (stem name).toList := fun slash =>
    plain.whole ((stem_prefix_self name).subset slash)
  have ending : '/' ∉ ("." ++ extension).toList := by simp [whole]
  have more : 2 < ("." ++ extension).length := by
    rw [String.length_append]
    exact Nat.add_lt_add_left long 1
  rw [withExtension_eq plain.here]
  split
  next => exact .inl rfl
  next =>
    rw [String.append_assoc]
    exact .inr (isPlain_append front ending more)

end Signpost.Path
