import Signpost.Proofs.Link

/-! Where links lead.

Steps upwards at the front of a path are counted and taken off the directory at once, all others are
taken when the whole path is followed. If the path of the current document has no steps upwards, both
come to the same as following one segment after the other, from the directory of the document. Whatever
the current path is, a link leads to an absolute path without detours, which leads to itself. -/

namespace Signpost.Reference

variable {path current : String} {segments entered : List (List Char)} {segment : List Char}

/-! ## Following a path segment by segment -/

/-- The segment names a directory or a document. -/
structure Enters (segment : List Char) : Prop where
  shown : segment ≠ []
  here : segment ≠ ['.']
  above : segment ≠ ['.', '.']

/-- One step from a directory: nothing and `.` stay there, and `..` goes no higher than the root. -/
def step (place : List (List Char)) (segment : List Char) : List (List Char) :=
  if segment = [] ∨ segment = ['.'] then place
  else if segment = ['.', '.'] then place.dropLast
  else place ++ [segment]

def rooted (place : List (List Char)) : String :=
  "/" ++ Text.join "/" (place.map String.ofList)

/-- The directory of a document is where its own path leads, without the last step. -/
def home (current : String) : List (List Char) :=
  ((Text.fields '/' current.toList).foldl step []).dropLast

/-- The segments from the root to what a path means in the document at `current`: no path means the
document itself, and a path that does not begin at the root begins in its directory. -/
def route (current : String) (path : List Char) : List (List Char) :=
  match path with
  | [] => Text.fields '/' current.toList
  | '/' :: _ => Text.fields '/' path
  | _ => home current ++ Text.fields '/' path

def reached (current : String) (path : List Char) : String :=
  rooted ((route current path).foldl step [])

theorem route_relative {path : List Char} (shown : path ≠ []) (relative : path.head? ≠ some '/') :
    route current path = home current ++ Text.fields '/' path := by
  unfold route
  split
  next => exact absurd rfl shown
  next => exact absurd rfl relative
  next => rfl

theorem foldl_step (path place : List (List Char)) :
    path.foldl step place =
      walk place (path.filter fun segment => !segment.isEmpty && segment != ['.']) := by
  induction path generalizing place with
  | nil => rfl
  | cons segment path ih =>
    rw [List.foldl_cons, ih]
    by_cases idle : segment = [] ∨ segment = ['.']
    · rw [step, if_pos idle, List.filter_cons_of_neg]
      rcases idle with rfl | rfl <;> decide
    · obtain ⟨shown, here⟩ := not_or.mp idle
      rw [List.filter_cons_of_pos (by simp [shown, here]), walk, step, if_neg idle]
      split <;> rfl

theorem foldl_step_fields (path : List Char) (place : List (List Char)) :
    (Text.fields '/' path).foldl step place = walk place (Reference.segments path) :=
  foldl_step _ place

/-! ## Steps upwards -/

theorem walk_append (entered path rest : List (List Char)) :
    walk entered (path ++ rest) = walk (walk entered path) rest := by
  induction path generalizing entered with
  | nil => rfl
  | cons segment path ih =>
    simp only [List.cons_append, walk]
    split
    · exact ih _
    · exact ih _

theorem walk_of_straight {path : List (List Char)} (straight : ['.', '.'] ∉ path)
    (entered : List (List Char)) : walk entered path = entered ++ path := by
  induction path generalizing entered with
  | nil => exact (List.append_nil entered).symm
  | cons segment path ih =>
    obtain ⟨here, later⟩ := List.ne_and_not_mem_of_not_mem_cons straight
    rw [walk, if_neg (Ne.symm here), ih later, List.append_assoc, List.singleton_append]

/-- Several steps upwards are taken at once. -/
theorem walk_replicate (levels : Nat) (entered : List (List Char)) :
    walk entered (List.replicate levels ['.', '.']) = entered.take (entered.length - levels) := by
  induction levels generalizing entered with
  | zero => simp [walk]
  | succ levels ih =>
    rw [List.replicate_succ, walk, if_pos rfl, ih, List.dropLast_eq_take, List.take_take,
      List.length_take]
    congr 1
    omega

theorem segments_climb (path : List Char) :
    Reference.segments path =
      List.replicate (climb path).1 ['.', '.'] ++ Reference.segments (climb path).2 := by
  fun_induction climb path with
  | case1 above levels rest climbs ih =>
    have first : Reference.segments ('.' :: '.' :: '/' :: above) =
        ['.', '.'] :: Reference.segments above := by
      simp [Reference.segments, Text.fields]
    rw [first, ih, climbs]
    rfl
  | case2 => rfl

/-- What counts in a path names something or goes upwards. -/
theorem of_mem_segments {path : List Char} (member : segment ∈ Reference.segments path) :
    segment ≠ [] ∧ segment ≠ ['.'] ∧ '/' ∉ segment := by
  obtain ⟨field, kept⟩ := List.mem_filter.mp member
  simp only [Bool.and_eq_true, Bool.not_eq_true', List.isEmpty_eq_false_iff, bne_iff_ne] at kept
  exact ⟨kept.1, kept.2, Text.not_mem_of_mem_fields field⟩

theorem mem_segments_of_directory (member : segment ∈ directory current) :
    segment ∈ Reference.segments current.toList := List.dropLast_subset _ member

theorem straight_directory (straight : ['.', '.'] ∉ Text.fields '/' current.toList) :
    ['.', '.'] ∉ directory current := fun member =>
  straight (List.mem_of_mem_filter (mem_segments_of_directory member))

theorem home_eq_directory (straight : ['.', '.'] ∉ Text.fields '/' current.toList) :
    home current = directory current := by
  have straight' : ['.', '.'] ∉ Reference.segments current.toList := fun member =>
    straight (List.mem_of_mem_filter member)
  rw [home, foldl_step_fields, walk_of_straight straight', List.nil_append, directory]

theorem reached_relative {path : List Char} (shown : path ≠ []) (relative : path.head? ≠ some '/')
    (straight : ['.', '.'] ∉ Text.fields '/' current.toList) :
    reached current path = rooted (walk (directory current) (Reference.segments path)) := by
  have counted : (directory current).foldl step [] = directory current := by
    rw [foldl_step, List.filter_eq_self.mpr, walk_of_straight (straight_directory straight),
      List.nil_append]
    intro segment member
    obtain ⟨shown, here, -⟩ := of_mem_segments (mem_segments_of_directory member)
    simp [shown, here]
  rw [reached, route_relative shown relative, home_eq_directory straight, List.foldl_append, counted,
    foldl_step_fields]

/-! ## Paths without detours -/

/-- The root, or an absolute path of which every segment names something. -/
def Direct (path : String) : Prop :=
  ∃ rest, path.toList = '/' :: rest ∧
    (rest = [] ∨ ∀ segment ∈ Text.fields '/' rest, Enters segment)

theorem of_mem_walk {path : List (List Char)} (member : segment ∈ walk entered path) :
    segment ∈ entered ∨ segment ∈ path ∧ segment ≠ ['.', '.'] := by
  induction path generalizing entered with
  | nil => exact .inl member
  | cons next path ih =>
    unfold walk at member
    split at member
    next =>
      exact (ih member).imp (List.dropLast_subset entered ·) (And.imp_left (List.mem_cons_of_mem next))
    next enters =>
      rcases ih member with before | later
      · rcases List.mem_append.mp before with old | new
        · exact .inl old
        · obtain rfl := List.mem_singleton.mp new
          exact .inr ⟨List.mem_cons_self, enters⟩
      · exact .inr ⟨List.mem_cons_of_mem next later.1, later.2⟩

/-- Wherever a path leads, the way there enters one directory after the other. -/
theorem resolve_eq_rooted (current : String) (target : Reference) :
    ∃ entered, (∀ segment ∈ entered, Enters segment ∧ '/' ∉ segment) ∧
      target.resolve current = rooted entered := by
  have enters {path : List (List Char)}
      (counts : ∀ segment ∈ path, segment ≠ [] ∧ segment ≠ ['.'] ∧ '/' ∉ segment) :
      ∀ segment ∈ walk [] path, Enters segment ∧ '/' ∉ segment := by
    intro segment member
    obtain ⟨later, above⟩ := (of_mem_walk member).resolve_left List.not_mem_nil
    obtain ⟨shown, here, whole⟩ := counts segment later
    exact ⟨⟨shown, here, above⟩, whole⟩
  cases target with
  | absolute | sameDocument => exact ⟨_, enters fun _ => of_mem_segments, rfl⟩
  | here | bare =>
    refine ⟨_, enters fun segment member => ?_, rfl⟩
    exact (List.mem_append.mp member).elim
      (fun before => of_mem_segments (mem_segments_of_directory before)) of_mem_segments
  | up =>
    refine ⟨_, enters fun segment member => ?_, rfl⟩
    exact (List.mem_append.mp member).elim
      (fun before => of_mem_segments (mem_segments_of_directory (List.mem_of_mem_take before)))
      of_mem_segments

section Rooted

variable (enters : ∀ segment ∈ entered, Enters segment ∧ '/' ∉ segment)
include enters

theorem fields_rooted (several : entered ≠ []) :
    ∃ rest, (rooted entered).toList = '/' :: rest ∧ Text.fields '/' rest = entered :=
  ⟨(Text.join "/" (entered.map String.ofList)).toList, by simp [rooted],
    Text.fields_join several fun segment member => (enters segment member).2⟩

theorem direct_rooted : Direct (rooted entered) := by
  by_cases several : entered = []
  · subst several
    exact ⟨[], by decide, .inl rfl⟩
  · obtain ⟨rest, split, fields⟩ := fields_rooted enters several
    exact ⟨rest, split, .inr fun segment member => (enters segment (fields ▸ member)).1⟩

theorem resolve_rooted (current : String) :
    (absolute (rooted entered)).resolve current = rooted entered := by
  have again : Reference.segments (rooted entered).toList = entered := by
    by_cases several : entered = []
    · subst several
      decide
    · obtain ⟨rest, split, fields⟩ := fields_rooted enters several
      have counted : entered.filter (fun segment => !segment.isEmpty && segment != ['.']) = entered :=
        List.filter_eq_self.mpr fun segment member => by
          obtain ⟨⟨shown, here, -⟩, -⟩ := enters segment member
          simp [shown, here]
      rw [Reference.segments, split, Text.fields, if_pos rfl, fields,
        List.filter_cons_of_neg (by decide), counted]
  have straight : ['.', '.'] ∉ entered := fun member => (enters _ member).1.above rfl
  calc
    (absolute (rooted entered)).resolve current =
        absoluteText (Reference.segments (rooted entered).toList) := rfl
    _ = rooted (walk [] entered) := by rw [again]; rfl
    _ = rooted entered := by rw [walk_of_straight straight, List.nil_append]

end Rooted

/-- Only the root ends in a slash. -/
theorem Direct.getLast? (direct : Direct path) (below : path ≠ "/") :
    path.toList.getLast? ≠ some '/' := by
  obtain ⟨rest, split, rfl | enters⟩ := direct
  · exact absurd (String.toList_inj.mp split) below
  · intro slash
    obtain ⟨front, ended⟩ := List.getLast?_eq_some_iff.mp (split ▸ slash)
    cases front with
    | nil =>
      obtain rfl := (List.cons.inj ended).2
      exact below (String.toList_inj.mp split)
    | cons c front =>
      obtain rfl := (List.cons.inj ended).2
      have last : [] ∈ Text.fields '/' (front ++ ['/']) := by
        rw [Text.fields_append]
        exact List.mem_append_right _ List.mem_cons_self
      exact (enters [] last).shown rfl

/-- Only at the root a link leads to a path that ends in a slash. -/
theorem getLast?_resolve (current : String) (target : Reference)
    (below : target.resolve current ≠ "/") :
    (target.resolve current).toList.getLast? ≠ some '/' := by
  obtain ⟨entered, enters, leads⟩ := resolve_eq_rooted current target
  exact (leads ▸ direct_rooted enters : Direct _).getLast? below

theorem Written.resolve {target : Reference} {path : List Char} (written : Written target path)
    (straight : ['.', '.'] ∉ Text.fields '/' current.toList) :
    target.resolve current = reached current path := by
  have entered (path : List (List Char)) :
      walk [] (directory current ++ path) = walk (directory current) path := by
    rw [walk_append, walk_of_straight (straight_directory straight), List.nil_append]
  cases written with
  | absolute rest =>
    rw [Reference.resolve, String.toList_ofList, reached, route, foldl_step_fields]
    rfl
  | here rest =>
    have rest' : Reference.segments ('.' :: '/' :: rest) = Reference.segments rest := by
      simp [Reference.segments, Text.fields]
    rw [Reference.resolve, String.toList_ofList, absoluteText, entered,
      reached_relative (List.cons_ne_nil _ _) (by simp) straight, rest']
    rfl
  | bare shown relative =>
    rw [Reference.resolve, String.toList_ofList, absoluteText, entered,
      reached_relative shown relative straight]
    rfl
  | @up levels above rest climbs =>
    have above' := segments_climb ('.' :: '.' :: '/' :: above)
    have left : ['.', '.'] ∉ (directory current).take ((directory current).length - levels) :=
      fun member => straight_directory straight (List.mem_of_mem_take member)
    rw [climbs] at above'
    rw [reached_relative (List.cons_ne_nil _ _) (by simp) straight, above', walk_append,
      walk_replicate, Reference.resolve, String.toList_ofList, absoluteText, walk_append,
      walk_of_straight left, List.nil_append]
    rfl

end Signpost.Reference

namespace Signpost.Link

variable {written : String} {link : Link}

theorem written_of_read (read : Link.read written = .ok link) :
    link.target = .sameDocument ∨ ∃ path, Reference.Written link.target path := by
  have target {body : List Char} (reads : Reads body link.target link.block) :
      link.target = .sameDocument ∨ ∃ path, Reference.Written link.target path := by
    generalize link.target = target at reads ⊢
    generalize link.block = block at reads
    cases reads with
    | within => exact .inl rfl
    | entrance _ _ read => exact .inr ⟨_, Reference.written_of_read? read⟩
    | block _ _ _ read => exact .inr ⟨_, Reference.written_of_read? read⟩
  obtain ⟨whole, body, permission, same⟩ := exists_readBody read
  exact target (readBody_eq_ok_iff.mp same).1

/-- A link that has been read leads where its written path is followed to, segment by segment, if the
current path has no steps upwards. From everywhere a link leads to an absolute path without detours,
and this path leads to itself. -/
theorem resolve_follows (link : Link) (current : String) :
    (∀ written, Link.read written = .ok link → ['.', '.'] ∉ Text.fields '/' current.toList →
      link.resolve current = Reference.reached current link.target.text.toList) ∧
    Reference.Direct (link.resolve current) ∧
    ∀ other, (Reference.absolute (link.resolve current)).resolve other = link.resolve current := by
  refine ⟨fun written read straight => ?_, ?_⟩
  · rcases written_of_read read with same | ⟨path, form⟩
    · rw [Link.resolve, same]
      exact congrArg Reference.rooted (Reference.foldl_step_fields _ []).symm
    · rw [form.text, String.toList_ofList]
      exact form.resolve straight
  · obtain ⟨entered, enters, leads⟩ := Reference.resolve_eq_rooted current link.target
    rw [Link.resolve, leads]
    exact ⟨Reference.direct_rooted enters, Reference.resolve_rooted enters⟩

/-- Two steps upwards at the front, one in the middle, and idle segments in both paths. -/
theorem resolve_follows_climbing :
    ∃ link, Link.read "../.././/a/../b/c.Main" = .ok link ∧
      link.resolve "/x//y/./z/doc" = "/x/b/c" ∧
      Reference.reached "/x//y/./z/doc" link.target.text.toList = "/x/b/c" := by
  have read : Link.read "../.././/a/../b/c.Main" =
      .ok ⟨.up 2 ".//a/../b/c", some "Main", none⟩ := by decide +kernel
  have straight : ['.', '.'] ∉ Text.fields '/' "/x//y/./z/doc".toList := by decide +kernel
  have leads : Link.resolve ⟨.up 2 ".//a/../b/c", some "Main", none⟩ "/x//y/./z/doc" = "/x/b/c" := by
    decide +kernel
  refine ⟨_, read, leads, ?_⟩
  rw [← (resolve_follows _ "/x//y/./z/doc").1 _ read straight, leads]

/-- Steps upwards in the current path are not followed before those at the front of a link. -/
example : Link.resolve ⟨.up 1 "c", none, none⟩ "/a/b/../doc" = "/a/b/c" ∧
    Reference.reached "/a/b/../doc" "../c".toList = "/c" := by
  decide +kernel

end Signpost.Link
